import Mathlib.Data.List.Forall2
import PromptLine.Json.Record
import PromptLine.Proofs.Json.Spelling

namespace PromptLine.Json

variable {α : Type} {read? : Json → Option α} {R : Json → α → Prop} {v : Json}

def IsText (v : Json) (t : Text) : Prop :=
  ∃ spelling, v = .string spelling ∧ unspell? spelling = some t

def IsNat (bound : Nat) (v : Json) (n : Nat) : Prop :=
  ∃ digits, v = .number digits ∧ Decimal.Writes digits n ∧ n < bound

theorem text?_eq_some_iff {t : Text} : text? v = some t ↔ IsText v t := by
  cases v with
  | string spelling => simp [text?, IsText]
  | _ => simp [text?, IsText]

theorem mapM_eq_some_iff (hread : ∀ v a, read? v = some a ↔ R v a) {items : List Json}
    {l : List α} :
    items.mapM read? = some l ↔ List.Forall₂ R items l := by
  induction items generalizing l with
  | nil => simp [eq_comm]
  | cons item items ih =>
    simp only [List.mapM_cons, Option.bind_eq_bind, Option.bind_eq_some_iff, hread, ih,
      List.forall₂_cons_left_iff]
    constructor
    · rintro ⟨a, ha, rest, hrest, hl⟩
      exact ⟨a, rest, ha, hrest, (Option.some.inj hl).symm⟩
    · rintro ⟨a, rest, ha, hrest, rfl⟩
      exact ⟨a, ha, rest, hrest, rfl⟩

namespace Fields

variable {f : Fields} {name : Text}

def Required (f : Fields) (name : Text) (R : Json → α → Prop) (a : α) : Prop :=
  ∃ v, f.value? name = some v ∧ R v a

def Optional (f : Fields) (name : Text) (R : Json → α → Prop) : Option α → Prop
  | none => f.value? name = some .null ∨ f.value? name = none ∧ f.listed = false
  | some a => ∃ v, f.value? name = some v ∧ v ≠ .null ∧ R v a

def Defaulted (f : Fields) (name : Text) (R : Json → α → Prop) (l : List α) : Prop :=
  f.value? name = none ∧ l = [] ∨
    ∃ items, f.value? name = some (.array items) ∧ List.Forall₂ R items l

theorem required?_eq_some_iff (hread : ∀ v a, read? v = some a ↔ R v a) {a : α} :
    f.required? name read? = some a ↔ f.Required name R a := by
  simp only [required?, Required, Option.bind_eq_some_iff, hread]

theorem optional?_eq_some_iff (hread : ∀ v a, read? v = some a ↔ R v a) {a : Option α} :
    f.optional? name read? = some a ↔ f.Optional name R a := by
  rw [optional?]
  split
  · next hvalue => cases a <;> simp [Optional, hvalue]
  · next v hne hvalue =>
    have hnull : v ≠ .null := hne
    cases a with
    | none => simp [Optional, hvalue, hnull]
    | some a => simp [Optional, hvalue, hnull, hread]
  · next hvalue =>
    cases hlisted : f.listed <;> cases a <;> simp [Optional, hvalue, hlisted]

theorem defaulted?_eq_some_iff (hread : ∀ v a, read? v = some a ↔ R v a) {l : List α} :
    f.defaulted? name read? = some l ↔ f.Defaulted name R l := by
  rw [defaulted?]
  split
  · next v hvalue =>
    cases v with
    | array items => simp [Defaulted, hvalue, list?, mapM_eq_some_iff hread]
    | _ => simp [Defaulted, hvalue, list?]
  · next hvalue => simp [Defaulted, hvalue, eq_comm]

end Fields

end PromptLine.Json
