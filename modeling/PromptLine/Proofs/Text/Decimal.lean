import PromptLine.Text.Decimal

namespace PromptLine.Decimal

variable {t : Text} {n : Nat}

structure Writes (t : Text) (n : Nat) : Prop where
  ne_nil : t ≠ []
  digits : ∀ x ∈ t, x.isDigit = true
  value : Nat.ofDigitChars 10 t 0 = n

theorem valueFrom_eq_some_iff {acc : Nat} : valueFrom acc t = some n ↔
    (∀ x ∈ t, x.isDigit = true) ∧ Nat.ofDigitChars 10 t acc = n := by
  induction t generalizing acc with
  | nil => simp [valueFrom]
  | cons x t ih =>
    by_cases hx : x.isDigit = true
    · have hdigit : digit? x = some (x.toNat - '0'.toNat) := if_pos hx
      simp only [valueFrom, hdigit, ih, Nat.ofDigitChars_cons, List.forall_mem_cons, hx, true_and]
    · have hdigit : digit? x = none := if_neg hx
      simp only [valueFrom, hdigit, List.forall_mem_cons, hx, false_and, reduceCtorEq]

theorem value?_eq_some_iff : value? t = some n ↔ Writes t n := by
  cases t with
  | nil => exact iff_of_false nofun fun h => h.ne_nil rfl
  | cons x t =>
    rw [value?, valueFrom_eq_some_iff]
    exact ⟨fun ⟨hdigits, hvalue⟩ => ⟨nofun, hdigits, hvalue⟩, fun h => ⟨h.digits, h.value⟩⟩

def WritesSigned (t : Text) (n : Nat) : Prop :=
  ∃ digits, (t = digits ∨ t = '+' :: digits) ∧ Writes digits n

theorem dropStart_plus_writes_iff : Writes (Text.dropStart ['+'] t) n ↔ WritesSigned t n := by
  cases hplus : Text.stripStart? ['+'] t with
  | none =>
    have hdrop : Text.dropStart ['+'] t = t := by simp [Text.dropStart, hplus]
    rw [hdrop]
    constructor
    · intro h
      exact ⟨t, .inl rfl, h⟩
    · rintro ⟨digits, rfl | rfl, h⟩
      · exact h
      · have hsome : Text.stripStart? ['+'] ('+' :: digits) = some digits :=
          Text.stripStart?_eq_some_iff.mpr rfl
        cases hsome.symm.trans hplus
  | some rest =>
    obtain rfl : t = '+' :: rest := Text.stripStart?_eq_some_iff.mp hplus
    have hdrop : Text.dropStart ['+'] ('+' :: rest) = rest := Text.dropStart_append ['+'] rest
    rw [hdrop]
    constructor
    · intro h
      exact ⟨rest, .inr rfl, h⟩
    · rintro ⟨digits, hd | hd, h⟩
      · have hdigit : '+'.isDigit = true := h.digits '+' (by simp [← hd])
        exact absurd hdigit (by decide)
      · obtain ⟨_, rfl⟩ := List.cons.inj hd
        exact h

theorem natural?_eq_some_iff {bound : Nat} :
    natural? bound t = some n ↔ WritesSigned t n ∧ n < bound := by
  rw [← dropStart_plus_writes_iff, ← value?_eq_some_iff, natural?]
  cases value? (Text.dropStart ['+'] t) with
  | none => simp
  | some m =>
    by_cases hm : m < bound
    · simp only [if_pos hm, Option.some.injEq]
      constructor
      · rintro rfl
        exact ⟨rfl, hm⟩
      · exact And.left
    · simp only [if_neg hm, Option.some.injEq]
      constructor
      · intro h
        cases h
      · rintro ⟨rfl, h⟩
        exact absurd h hm

theorem writes_render (n : Nat) : Writes (render n) n where
  ne_nil := Nat.toDigits_ne_nil
  digits _ := Nat.isDigit_of_mem_toDigits (by decide) (by decide)
  value := Nat.ofDigitChars_toDigits (by decide) (by decide)

end PromptLine.Decimal
