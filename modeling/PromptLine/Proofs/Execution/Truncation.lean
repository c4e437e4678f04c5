import PromptLine.Execution.Truncation
import PromptLine.Proofs.Text.Boundary

namespace PromptLine.Truncation

variable {budget : Nat} {output : Text}

theorem truncate_of_le (h : (Utf8.encode output).length ≤ budget) :
    truncate budget output = output := by
  rw [Utf8.length_encode] at h
  exact if_pos h

theorem truncate_of_lt (h : budget < (Utf8.encode output).length) : ∃ omitted,
    truncate budget output = Utf8.fitting budget output ++ marker omitted ∧
      (Utf8.encode (Utf8.fitting budget output)).length + omitted = (Utf8.encode output).length ∧
      1 ≤ omitted := by
  have hkept := (Utf8.longestWithin_fitting budget output).within
  rw [Utf8.length_encode] at h hkept
  refine ⟨_, if_neg (Nat.not_le.mpr h), ?_, ?_⟩
  · rw [Utf8.length_encode, Utf8.length_encode]
    omega
  · omega

theorem longest_beginning_is_kept (budget : Nat) (output : Text) :
    let kept := Utf8.fitting budget output
    Utf8.cutBack? budget output = some kept ∧
    Utf8.LongestWithin budget output kept ∧
    (kept = output ↔ (Utf8.encode output).length ≤ budget) ∧
    (budget < (Utf8.encode output).length → budget ≤ (Utf8.encode kept).length + 3) ∧
    ((Utf8.encode output).length ≤ budget → truncate budget output = output) ∧
    (budget < (Utf8.encode output).length → ∃ omitted,
      truncate budget output = kept ++ ("\n[... output truncated, ".toList ++
        Nat.toDigits 10 omitted ++ " bytes omitted]".toList) ∧
      (Utf8.encode kept).length + omitted = (Utf8.encode output).length ∧ 1 ≤ omitted) ∧
    ∀ more, budget ≤ more → kept <+: Utf8.fitting more output := by
  intro kept
  have hkept : Utf8.LongestWithin budget output kept := Utf8.longestWithin_fitting budget output
  exact ⟨hkept.cutBack?_eq, hkept, hkept.eq_iff, hkept.budget_le, truncate_of_le, truncate_of_lt,
    fun more => hkept.mono (Utf8.longestWithin_fitting more output)⟩

theorem wide_character_is_omitted :
    Utf8.cutBack? 3 "é😀".toList = some ['é'] ∧ 3 < (Utf8.encode "é😀".toList).length ∧
    ∃ omitted, truncate 3 "é😀".toList = 'é' :: ("\n[... output truncated, ".toList ++
      Nat.toDigits 10 omitted ++ " bytes omitted]".toList) ∧ 2 + omitted = 6 := by
  have hlong : 3 < (Utf8.encode "é😀".toList).length := by decide
  obtain ⟨hcut, _, _, _, _, homits, _⟩ := longest_beginning_is_kept 3 "é😀".toList
  obtain ⟨omitted, htruncate, htotal, _⟩ := homits hlong
  exact ⟨hcut, hlong, omitted, htruncate, htotal⟩

end PromptLine.Truncation
