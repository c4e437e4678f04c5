import PromptLine.Json.Spelling

namespace PromptLine

namespace Json

/-- The values of a record's fields. An array may stand for the record and list them in order, and
then each that has no default must be there. -/
structure Fields where
  listed : Bool
  values : List (Text × Json)

def listed? : List Text → List Json → Option (List (Text × Json))
  | _, [] => some []
  | [], _ :: _ => none
  | name :: names, v :: items => (listed? names items).map ((name, v) :: ·)

def named? (exact : Bool) (names : List Text) :
    List (Text × Json) → Option (List (Text × Json))
  | [] => some []
  | (spelling, v) :: members =>
      match unspell? spelling, named? exact names members with
      | some name, some values =>
          if names.contains name then
            if values.any (·.1 = name) then none else some ((name, v) :: values)
          else if exact then none
          else some values
      | _, _ => none

def fields? (exact : Bool) (names : List Text) : Json → Option Fields
  | .object members => (named? exact names members).map (⟨false, ·⟩)
  | .array items => (listed? names items).map (⟨true, ·⟩)
  | _ => none

namespace Fields

variable {α : Type}

def value? (f : Fields) (name : Text) : Option Json := f.values.lookup name

def required? (f : Fields) (name : Text) (read? : Json → Option α) : Option α :=
  (f.value? name).bind read?

def optional? (f : Fields) (name : Text) (read? : Json → Option α) : Option (Option α) :=
  match f.value? name with
  | some .null => some none
  | some v => (read? v).map some
  | none => if f.listed then none else some none

def defaulted? (f : Fields) (name : Text) (read? : Json → Option α) : Option (List α) :=
  match f.value? name with
  | some v => list? read? v
  | none => some []

end Fields

end Json

end PromptLine
