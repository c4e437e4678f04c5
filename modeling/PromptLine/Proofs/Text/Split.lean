import PromptLine.Text.Basic

namespace PromptLine.Text

variable {p : Char → Bool} {t u : Text}

theorem first_cut_unique {sep : Char} {s v : Text} (h : t ++ sep :: u = s ++ sep :: v)
    (ht : sep ∉ t) (hs : sep ∉ s) : t = s ∧ u = v := by
  have hcut : cut? sep (t ++ sep :: u) = some (t, u) := cut?_eq_some_iff.mpr ⟨rfl, ht⟩
  rw [h, cut?_eq_some_iff.mpr ⟨rfl, hs⟩] at hcut
  obtain ⟨rfl, rfl⟩ := Prod.mk.inj (Option.some.inj hcut)
  exact ⟨rfl, rfl⟩

theorem last_cut_unique {sep : Char} {s v : Text} (h : t ++ sep :: u = s ++ sep :: v)
    (hu : sep ∉ u) (hv : sep ∉ v) : t = s ∧ u = v := by
  have hcut : cutLast? sep (t ++ sep :: u) = some (t, u) := cutLast?_eq_some_iff.mpr ⟨rfl, hu⟩
  rw [h, cutLast?_eq_some_iff.mpr ⟨rfl, hv⟩] at hcut
  obtain ⟨rfl, rfl⟩ := Prod.mk.inj (Option.some.inj hcut)
  exact ⟨rfl, rfl⟩

inductive Occurs (sep : Char) : Text → Prop where
  | never {t : Text} : sep ∉ t → Occurs sep t
  | once {a b : Text} : sep ∉ a → sep ∉ b → Occurs sep (a ++ sep :: b)
  | often {a m b : Text} : sep ∉ a → sep ∉ b → Occurs sep (a ++ sep :: (m ++ sep :: b))

theorem count_once {sep : Char} (ht : sep ∉ t) (hu : sep ∉ u) : (t ++ sep :: u).count sep = 1 := by
  rw [List.count_append, List.count_cons_self, List.count_eq_zero.mpr ht, List.count_eq_zero.mpr hu]

theorem occurs (sep : Char) (t : Text) : Occurs sep t := by
  cases hcut : cut? sep t with
  | none => exact .never (cut?_eq_none_iff.mp hcut)
  | some cut =>
    obtain ⟨a, rest⟩ := cut
    obtain ⟨rfl, ha⟩ := cut?_eq_some_iff.mp hcut
    cases hlast : cutLast? sep rest with
    | none => exact .once ha (cutLast?_eq_none_iff.mp hlast)
    | some last =>
      obtain ⟨m, b⟩ := last
      obtain ⟨rfl, hb⟩ := cutLast?_eq_some_iff.mp hlast
      exact .often ha hb

theorem splitWhere_ne_nil (p : Char → Bool) (t : Text) : splitWhere p t ≠ [] := by
  cases t with
  | nil => simp [splitWhere]
  | cons c t =>
    rw [splitWhere]
    split
    · simp
    · split <;> simp

theorem splitWhere_cons_pos {c : Char} (hc : p c = true) :
    splitWhere p (c :: t) = [] :: splitWhere p t := by
  cases ht : splitWhere p t with
  | nil => exact absurd ht (splitWhere_ne_nil p t)
  | cons part rest => simp [splitWhere, ht, hc]

theorem splitWhere_cons_neg {c : Char} {part : Text} {rest : List Text} (hc : p c = false)
    (ht : splitWhere p t = part :: rest) : splitWhere p (c :: t) = (c :: part) :: rest := by
  simp [splitWhere, ht, hc]

theorem splitWhere_append {c : Char} (hc : p c = true) :
    splitWhere p (t ++ c :: u) = splitWhere p t ++ splitWhere p u := by
  induction t with
  | nil => rw [List.nil_append, splitWhere_cons_pos hc, splitWhere, List.singleton_append]
  | cons x t ih =>
    cases hx : p x with
    | true => rw [List.cons_append, splitWhere_cons_pos hx, splitWhere_cons_pos hx, ih, List.cons_append]
    | false =>
      cases ht : splitWhere p t with
      | nil => exact absurd ht (splitWhere_ne_nil p t)
      | cons part rest =>
        rw [ht, List.cons_append] at ih
        rw [List.cons_append, splitWhere_cons_neg hx ih, splitWhere_cons_neg hx ht, List.cons_append]

theorem join_cons {sep part : Text} {rest : List Text} (h : rest ≠ []) :
    join sep (part :: rest) = part ++ sep ++ join sep rest := by
  cases rest with
  | nil => exact absurd rfl h
  | cons => rfl

theorem join_splitWhere {sep : Char} (h : ∀ c ∈ t, p c = true → c = sep) :
    join [sep] (splitWhere p t) = t := by
  induction t with
  | nil => rfl
  | cons c t ih =>
    have ht := ih fun x hx => h x (by simp [hx])
    cases hc : p c with
    | true =>
      rw [splitWhere_cons_pos hc, join_cons (splitWhere_ne_nil p t), ht, h c (by simp) hc]
      rfl
    | false =>
      cases hs : splitWhere p t with
      | nil => exact absurd hs (splitWhere_ne_nil p t)
      | cons part rest =>
        rw [splitWhere_cons_neg hc hs]
        rw [hs] at ht
        cases rest with
        | nil => simpa [join] using ht
        | cons => simpa [join] using ht

end PromptLine.Text
