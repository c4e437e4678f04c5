namespace PromptLine

variable {α β : Type} [DecidableEq β]

def firstsBy (key : α → β) : List α → List α
  | [] => []
  | a :: rest => a :: (firstsBy key rest).filter (key · ≠ key a)

theorem firstsBy_sublist (key : α → β) (l : List α) : (firstsBy key l).Sublist l := by
  induction l with
  | nil => exact .slnil
  | cons a l ih => exact .cons_cons a (List.filter_sublist.trans ih)

theorem firstsBy_nodup (key : α → β) (l : List α) : ((firstsBy key l).map key).Nodup := by
  induction l with
  | nil => exact List.Pairwise.nil
  | cons a l ih =>
      rw [firstsBy, List.map_cons, List.nodup_cons]
      constructor
      · simp only [List.mem_map, List.mem_filter, decide_eq_true_eq, not_exists, not_and, and_imp]
        exact fun x _ hx => hx
      · exact List.Sublist.nodup (List.Sublist.map key List.filter_sublist) ih

theorem firstsBy_of_nodup (key : α → β) {l : List α} (h : (l.map key).Nodup) :
    firstsBy key l = l := by
  induction l with
  | nil => rfl
  | cons a l ih =>
      rw [List.map_cons, List.nodup_cons] at h
      rw [firstsBy, ih h.2, List.filter_eq_self.2]
      intro x hx
      exact decide_eq_true fun hk => h.1 (List.mem_map.2 ⟨x, hx, hk⟩)

theorem mem_firstsBy_key (key : α → β) {l : List α} {b : β} :
    b ∈ (firstsBy key l).map key ↔ b ∈ l.map key := by
  induction l with
  | nil => rfl
  | cons a l ih =>
      by_cases h : b = key a
      · simp [firstsBy, h]
      · rw [firstsBy, List.map_cons, List.map_cons, List.mem_cons, List.mem_cons, ← ih]
        simp only [h, false_or, List.mem_map, List.mem_filter, decide_eq_true_eq]
        constructor
        · rintro ⟨x, ⟨hx, _⟩, rfl⟩
          exact ⟨x, hx, rfl⟩
        · rintro ⟨x, hx, rfl⟩
          exact ⟨x, ⟨hx, h⟩, rfl⟩

theorem find?_key_eq_some_iff (key : α → β) {l : List α} (h : (l.map key).Nodup) {a : α} {b : β} :
    l.find? (key · = b) = some a ↔ a ∈ l ∧ key a = b := by
  induction l with
  | nil => simp
  | cons x l ih =>
      rw [List.map_cons, List.nodup_cons] at h
      by_cases hx : key x = b
      · rw [List.find?_cons_of_pos (by simpa using hx), Option.some.injEq, List.mem_cons]
        constructor
        · rintro rfl
          exact ⟨.inl rfl, hx⟩
        · rintro ⟨rfl | ha, hk⟩
          · rfl
          · exact absurd (List.mem_map.2 ⟨a, ha, hk.trans hx.symm⟩) h.1
      · rw [List.find?_cons_of_neg (by simpa using hx), ih h.2, List.mem_cons]
        constructor
        · rintro ⟨ha, hk⟩
          exact ⟨.inr ha, hk⟩
        · rintro ⟨rfl | ha, hk⟩
          · exact absurd hk hx
          · exact ⟨ha, hk⟩

theorem find?_firstsBy (key : α → β) (l : List α) (b : β) :
    (firstsBy key l).find? (key · = b) = l.find? (key · = b) := by
  induction l with
  | nil => rfl
  | cons a l ih =>
    by_cases ha : key a = b
    · rw [firstsBy, List.find?_cons_of_pos (by simpa using ha),
        List.find?_cons_of_pos (by simpa using ha)]
    · have hkept (x : α) : (key x ≠ key a ∧ key x = b) ↔ key x = b :=
        and_iff_right_of_imp fun hx h => ha (h.symm.trans hx)
      rw [firstsBy, List.find?_cons_of_neg (by simpa using ha),
        List.find?_cons_of_neg (by simpa using ha), List.find?_filter, ← ih]
      simp only [decide_eq_true_eq, hkept]

theorem firstsBy_append (key : α → β) (l more : List α) :
    firstsBy key (l ++ more) = firstsBy key l ++ (firstsBy key more).filter (key · ∉ l.map key) := by
  induction l with
  | nil => exact (List.filter_eq_self.2 fun a _ => rfl).symm
  | cons a l ih =>
    rw [List.cons_append, firstsBy, firstsBy, ih, List.filter_append, List.filter_filter,
      List.cons_append]
    simp only [List.map_cons, List.mem_cons, not_or, Bool.decide_and]

end PromptLine
