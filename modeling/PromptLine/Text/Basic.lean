namespace PromptLine

/-- Text is the list of its characters: every count and offset is in characters unless a name
says bytes. -/
abbrev Text := List Char

namespace Text

def stripStart? : Text → Text → Option Text
  | [], t => some t
  | _ :: _, [] => none
  | l :: lead, c :: t => if l = c then stripStart? lead t else none

theorem stripStart?_eq_some_iff {lead t r : Text} : stripStart? lead t = some r ↔ t = lead ++ r := by
  induction lead generalizing t with
  | nil => simp [stripStart?]
  | cons l lead ih =>
      cases t with
      | nil => simp [stripStart?]
      | cons c t =>
          by_cases h : l = c
          · simp [stripStart?, h, ih]
          · simp only [stripStart?, if_neg h, List.cons_append, List.cons.injEq, reduceCtorEq, false_iff]
            exact fun e => h e.1.symm

def dropStart (lead t : Text) : Text :=
  (stripStart? lead t).getD t

theorem dropStart_append (lead t : Text) : dropStart lead (lead ++ t) = t := by
  simp [dropStart, stripStart?_eq_some_iff.2 rfl]

def dropEndWhile (p : Char → Bool) : Text → Text
  | [] => []
  | c :: t =>
      match dropEndWhile p t with
      | [] => if p c then [] else [c]
      | r => c :: r

def cut? (sep : Char) : Text → Option (Text × Text)
  | [] => none
  | c :: t =>
      if c = sep then some ([], t)
      else (cut? sep t).map fun (before, after) => (c :: before, after)

theorem cut?_eq_some_iff {sep : Char} {t a b : Text} :
    cut? sep t = some (a, b) ↔ t = a ++ sep :: b ∧ sep ∉ a := by
  induction t generalizing a with
  | nil => simp [cut?]
  | cons c t ih =>
      by_cases h : c = sep
      · subst h
        cases a with
        | nil => simp [cut?]
        | cons x a =>
            simp only [cut?, if_true, Option.some.injEq, Prod.mk.injEq, List.cons_append,
              List.cons.injEq, List.mem_cons, not_or]
            exact ⟨fun e => absurd e.1 (by simp), fun e => absurd e.1.1 e.2.1⟩
      · cases a with
        | nil => simp [cut?, h]
        | cons x a =>
            have hi := @ih a
            simp only [cut?, if_neg h, Option.map_eq_some_iff, Prod.mk.injEq, List.cons_append,
              List.cons.injEq, List.mem_cons, not_or]
            constructor
            · rintro ⟨⟨a', b'⟩, hc, ⟨rfl, rfl⟩, rfl⟩
              exact ⟨⟨rfl, (hi.1 hc).1⟩, fun e => h e.symm, (hi.1 hc).2⟩
            · rintro ⟨⟨rfl, ht⟩, _, ha⟩
              exact ⟨(a, b), hi.2 ⟨ht, ha⟩, ⟨rfl, rfl⟩, rfl⟩

theorem cut?_eq_none_iff {sep : Char} {t : Text} : cut? sep t = none ↔ sep ∉ t := by
  induction t with
  | nil => simp [cut?]
  | cons c t ih =>
      by_cases h : c = sep
      · simp [cut?, h]
      · have hne : sep ≠ c := fun e => h e.symm
        simp [cut?, h, hne, ih]

def cutLast? (sep : Char) (t : Text) : Option (Text × Text) :=
  (cut? sep t.reverse).map fun (after, before) => (before.reverse, after.reverse)

theorem cutLast?_eq_some_iff {sep : Char} {t a b : Text} :
    cutLast? sep t = some (a, b) ↔ t = a ++ sep :: b ∧ sep ∉ b := by
  simp only [cutLast?, Option.map_eq_some_iff, Prod.exists, cut?_eq_some_iff, Prod.mk.injEq]
  constructor
  · rintro ⟨x, y, ⟨ht, hx⟩, rfl, rfl⟩
    refine ⟨?_, by simpa using hx⟩
    rw [← List.reverse_reverse t, ht]
    simp
  · rintro ⟨rfl, hb⟩
    exact ⟨b.reverse, a.reverse, ⟨by simp, by simpa using hb⟩, by simp, by simp⟩

theorem cutLast?_eq_none_iff {sep : Char} {t : Text} : cutLast? sep t = none ↔ sep ∉ t := by
  simp [cutLast?, cut?_eq_none_iff]

def splitWhere (p : Char → Bool) : Text → List Text
  | [] => [[]]
  | c :: t =>
      match splitWhere p t with
      | [] => [[c]]
      | part :: rest => if p c then [] :: part :: rest else (c :: part) :: rest

def join (sep : Text) : List Text → Text
  | [] => []
  | [t] => t
  | t :: rest => t ++ sep ++ join sep rest

end Text

def charOfCode? (n : Nat) : Option Char :=
  if n.isValidChar then some (Char.ofNat n) else none

end PromptLine
