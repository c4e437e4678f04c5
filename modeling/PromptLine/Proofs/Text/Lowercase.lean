import PromptLine.Text.Lowercase

namespace PromptLine.Text

variable {before s t u v : Text} {c : Char}

theorem meetsCased_append :
    meetsCased (t ++ u) = if t.all isCaseIgnorable then meetsCased u else meetsCased t := by
  induction t with
  | nil => rfl
  | cons c t ih =>
    cases hc : isCaseIgnorable c with
    | true => simp [meetsCased, hc, ih]
    | false => simp [meetsCased, hc]

def lowerAmid (before : Text) (c : Char) (after : Text) : Text :=
  if c.toNat == 0x3a3 then
    [Char.ofNat (if meetsCased before && !meetsCased after then 0x3c2 else 0x3c3)]
  else lowerChar c

def lowerBetween (before : Text) : Text → Text → Text
  | [], _ => []
  | c :: t, after => lowerAmid before c (t ++ after) ++ lowerBetween (c :: before) t after

theorem lowerFrom_append :
    lowerFrom before (t ++ u) = lowerBetween before t u ++ lowerFrom (t.reverse ++ before) u := by
  induction t generalizing before with
  | nil => rfl
  | cons c t ih =>
    rw [List.cons_append, lowerFrom, ih, lowerBetween, lowerAmid, List.reverse_cons,
      List.append_assoc, List.append_assoc, List.singleton_append]

theorem lower_append : lower (t ++ u) = lowerBetween [] t u ++ lowerFrom t.reverse u := by
  rw [lower, lowerFrom_append, List.append_nil]

theorem lower_eq_lowerBetween : lower t = lowerBetween [] t [] := by
  have h := lower_append (t := t) (u := [])
  rwa [List.append_nil, lowerFrom, List.append_nil] at h

theorem lowerAmid_sigma (before after : Text) : lowerAmid before 'Σ' after =
    [if meetsCased before && !meetsCased after then 'ς' else 'σ'] := by
  rw [lowerAmid, if_pos (by decide), apply_ite Char.ofNat]

theorem lowerAmid_of_ne (h : c ≠ 'Σ') (before after : Text) :
    lowerAmid before c after = lowerChar c := by
  refine if_neg fun hcode => h ?_
  rw [← Char.ofNat_toNat c, beq_iff_eq.mp hcode]

theorem length_lowerAmid : (lowerAmid before c u).length = (lowerAmid before c v).length := by
  by_cases hc : c = 'Σ'
  · rw [hc, lowerAmid_sigma, lowerAmid_sigma, List.length_singleton, List.length_singleton]
  · rw [lowerAmid_of_ne hc, lowerAmid_of_ne hc]

theorem length_lowerBetween :
    (lowerBetween before t u).length = (lowerBetween before t v).length := by
  induction t generalizing before with
  | nil => rfl
  | cons c t ih =>
    rw [lowerBetween, lowerBetween, List.length_append, List.length_append, length_lowerAmid, ih]

def EndsInSigma (before t : Text) : Prop :=
  ∃ word rest, t = word ++ 'Σ' :: rest ∧ meetsCased (word.reverse ++ before) = true ∧
    ∀ c ∈ rest, isCaseIgnorable c = true

theorem not_endsInSigma_nil : ¬ EndsInSigma before [] := by
  rintro ⟨word, rest, h, _⟩
  simp at h

theorem endsInSigma_cons : EndsInSigma before (c :: t) ↔
    (c = 'Σ' ∧ meetsCased before = true ∧ ∀ x ∈ t, isCaseIgnorable x = true) ∨
      EndsInSigma (c :: before) t := by
  constructor
  · rintro ⟨word, rest, h, hword, hrest⟩
    cases word with
    | nil =>
      obtain ⟨rfl, rfl⟩ := List.cons.inj h
      exact .inl ⟨rfl, hword, hrest⟩
    | cons x word =>
      obtain ⟨rfl, rfl⟩ := List.cons.inj h
      exact .inr ⟨word, rest, rfl, by simpa using hword, hrest⟩
  · rintro (⟨rfl, hbefore, hrest⟩ | ⟨word, rest, rfl, hword, hrest⟩)
    · exact ⟨[], t, rfl, hbefore, hrest⟩
    · exact ⟨c :: word, rest, rfl, by simpa using hword, hrest⟩

instance decidableEndsInSigma : (before t : Text) → Decidable (EndsInSigma before t)
  | _, [] => isFalse not_endsInSigma_nil
  | before, c :: t =>
      have := decidableEndsInSigma (c :: before) t
      decidable_of_iff _ endsInSigma_cons.symm

theorem lowerAmid_eq_iff : lowerAmid before c (t ++ u) = lowerAmid before c t ↔
    ¬ ((c = 'Σ' ∧ meetsCased before = true ∧ ∀ x ∈ t, isCaseIgnorable x = true) ∧
      meetsCased u = true) := by
  by_cases hc : c = 'Σ'
  · subst hc
    rw [lowerAmid_sigma, lowerAmid_sigma, meetsCased_append, ← List.all_eq_true]
    cases ht : t.all isCaseIgnorable with
    | false => simp
    | true =>
      have hend : meetsCased t = false := by
        have happend := meetsCased_append (t := t) (u := [])
        rwa [List.append_nil, if_pos ht] at happend
      cases meetsCased before <;> cases meetsCased u <;> simp [hend]
  · rw [lowerAmid_of_ne hc, lowerAmid_of_ne hc]
    simp [hc]

theorem lowerBetween_eq_iff : lowerBetween before t u = lowerBetween before t [] ↔
    ¬ (EndsInSigma before t ∧ meetsCased u = true) := by
  induction t generalizing before with
  | nil => simp [lowerBetween, not_endsInSigma_nil]
  | cons c t ih =>
    have hsplit : lowerBetween before (c :: t) u = lowerBetween before (c :: t) [] ↔
        lowerAmid before c (t ++ u) = lowerAmid before c t ∧
          lowerBetween (c :: before) t u = lowerBetween (c :: before) t [] := by
      rw [lowerBetween, lowerBetween, List.append_nil]
      constructor
      · intro h
        exact List.append_inj h length_lowerAmid
      · rintro ⟨hc, ht⟩
        rw [hc, ht]
    rw [hsplit, ih, lowerAmid_eq_iff, endsInSigma_cons, or_and_right, not_or]

theorem lower_prefix_iff (h : lower (t ++ u) <+: v) :
    lower t <+: v ↔ ¬ (EndsInSigma [] t ∧ meetsCased u = true) := by
  rw [lower_append] at h
  have hpart : lowerBetween [] t u <+: v := (List.prefix_append _ _).trans h
  rw [← lowerBetween_eq_iff, lower_eq_lowerBetween]
  constructor
  · intro ht
    have hprefix := List.prefix_of_prefix_length_le hpart ht (Nat.le_of_eq length_lowerBetween)
    exact hprefix.eq_of_length length_lowerBetween
  · intro heq
    rwa [heq] at hpart

end PromptLine.Text
