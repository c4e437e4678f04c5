import Mathlib.Data.List.Basic
import PromptLine.Firsts

namespace PromptLine

variable {α β : Type} [DecidableEq α] [DecidableEq β]

structure Firsts (l firsts : List α) : Prop where
  mem : ∀ x, x ∈ firsts ↔ x ∈ l
  ordered : firsts.Pairwise fun x y => l.idxOf x < l.idxOf y

theorem Firsts.nodup {l firsts : List α} (h : Firsts l firsts) : firsts.Nodup :=
  h.ordered.imp fun hlt heq => by rw [heq] at hlt; exact Nat.lt_irrefl _ hlt

theorem firsts_firstsBy (l : List α) : Firsts l (firstsBy id l) where
  mem x := by
    have h := mem_firstsBy_key id (l := l) (b := x)
    rwa [List.map_id, List.map_id] at h
  ordered := by
    induction l with
    | nil => exact .nil
    | cons a l ih =>
      have hne : ∀ x ∈ (firstsBy id l).filter (id · ≠ id a), x ≠ a := fun x hx =>
        of_decide_eq_true (List.mem_filter.mp hx).2
      refine List.pairwise_cons.mpr ⟨fun x hx => ?_, ?_⟩
      · rw [List.idxOf_cons_self, List.idxOf_cons_ne _ (hne x hx).symm]
        exact Nat.succ_pos _
      · refine (ih.filter _).imp_of_mem fun hx hy hlt => ?_
        rw [List.idxOf_cons_ne _ (hne _ hx).symm, List.idxOf_cons_ne _ (hne _ hy).symm]
        exact Nat.succ_lt_succ hlt

theorem firstsBy_filter (p : α → Bool) (l : List α) :
    firstsBy id (l.filter p) = (firstsBy id l).filter p := by
  induction l with
  | nil => rfl
  | cons a l ih =>
    by_cases ha : p a = true
    · rw [List.filter_cons_of_pos ha, firstsBy, firstsBy, List.filter_cons_of_pos ha, ih,
        List.filter_filter, List.filter_filter]
      simp only [Bool.and_comm]
    · have hself : ∀ x ∈ firstsBy id l, p x = true → x ≠ a := fun x _ hx hxa => ha (hxa ▸ hx)
      rw [List.filter_cons_of_neg ha, firstsBy, List.filter_cons_of_neg ha, ih, List.filter_filter]
      refine List.filter_congr fun x hx => ?_
      by_cases hpx : p x = true
      · simp [hpx, hself x hx hpx]
      · simp [hpx]

theorem firstsBy_map_firstsBy (f : α → β) (l : List α) :
    firstsBy id ((firstsBy id l).map f) = firstsBy id (l.map f) := by
  induction l with
  | nil => rfl
  | cons a l ih =>
    have hfilter : (((firstsBy id l).filter (id · ≠ id a)).map f).filter (id · ≠ id (f a)) =
        ((firstsBy id l).map f).filter (id · ≠ id (f a)) := by
      rw [List.filter_map, List.filter_map, List.filter_filter]
      congr 1
      refine List.filter_congr fun x _ => ?_
      by_cases hx : x = a
      · simp [hx]
      · simp [hx]
    rw [firstsBy, List.map_cons, List.map_cons, firstsBy, firstsBy, ← firstsBy_filter, hfilter,
      firstsBy_filter, ih]

theorem firstsBy_concat (l : List α) (a : α) :
    firstsBy id (l ++ [a]) = if a ∈ l then firstsBy id l else firstsBy id l ++ [a] := by
  have hone : firstsBy id [a] = [a] := rfl
  rw [firstsBy_append, hone, List.map_id]
  split
  · next h => simp [h]
  · next h => simp [h]

end PromptLine
