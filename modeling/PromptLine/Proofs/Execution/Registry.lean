import PromptLine.Execution.Registry

namespace PromptLine

def Executor.noted {σ : Type} (execute : Executor σ) : Executor (σ × List Command) :=
  fun c (w, seen) => ((execute c w).1, (execute c w).2, seen ++ [c])

namespace Handlers

variable {σ : Type} {key : Text × Text}

@[simp] theorem get?_empty : (empty : Handlers σ).get? key = none := rfl

theorem get?_insert (m : Handlers σ) (s : Slot σ) :
    (m.insert s).1.get? key = if s.key = key then some s.handler else m.get? key := by
  by_cases hs : s.key = key
  · simp [insert, get?, hs]
  · have hkept (t : Slot σ) : (t.key ≠ s.key ∧ t.key = key) ↔ t.key = key :=
      and_iff_right_of_imp fun ht h => hs (h.symm.trans ht)
    rw [if_neg hs]
    simp only [insert, get?]
    rw [List.find?_cons_of_neg (by simpa using hs), List.find?_filter]
    simp only [decide_eq_true_eq, hkept]

theorem replaced_insert (m : Handlers σ) (s : Slot σ) : (m.insert s).2 = m.get? s.key := rfl

theorem isEmpty_iff {m : Handlers σ} : m.isEmpty = true ↔ ∀ key, m.get? key = none := by
  constructor
  · intro h key
    have hslots : m.slots = [] := List.isEmpty_iff.mp h
    rw [get?, hslots]
    rfl
  · intro h
    rw [isEmpty, List.isEmpty_iff, List.eq_nil_iff_forall_not_mem]
    intro s hs
    have hnone := h s.key
    rw [get?, Option.map_eq_none_iff, List.find?_eq_none] at hnone
    exact hnone s hs (decide_eq_true rfl)

end Handlers

namespace Registry

variable {σ : Type} {provider method : Text}

theorem handlers_register (r : Registry σ) (s : Slot σ) :
    (r.register s).handlers = (r.handlers.insert s).1 := by
  simp only [register]
  split
  · rfl
  · rfl

theorem order_register (r : Registry σ) (s : Slot σ) : (r.register s).order =
    if (r.handlers.get? s.key).isSome then r.order else r.order ++ [s.key] := by
  cases hheld : r.handlers.get? s.key with
  | none => simp [register, Handlers.replaced_insert, hheld]
  | some handler => simp [register, Handlers.replaced_insert, hheld]

@[simp] theorem lookup?_empty : (empty : Registry σ).lookup? provider method = none := rfl

@[simp] theorem lookup?_register (r : Registry σ) (s : Slot σ) :
    (r.register s).lookup? provider method =
      if s.key = (provider, method) then some s.handler else r.lookup? provider method := by
  rw [lookup?, handlers_register, Handlers.get?_insert, lookup?]

structure InStep (r : Registry σ) : Prop where
  distinct : r.order.Nodup
  mem : ∀ key, key ∈ r.order ↔ (r.handlers.get? key).isSome = true

theorem inStep_empty : (empty : Registry σ).InStep := ⟨.nil, fun _ => iff_of_false nofun nofun⟩

theorem InStep.register {r : Registry σ} (h : r.InStep) (s : Slot σ) : (r.register s).InStep := by
  have hget (key : Text × Text) : ((r.register s).handlers.get? key).isSome = true ↔
      s.key = key ∨ (r.handlers.get? key).isSome = true := by
    rw [handlers_register, Handlers.get?_insert]
    by_cases hs : s.key = key
    · simp [hs]
    · simp [hs]
  cases hheld : r.handlers.get? s.key with
  | none =>
    have horder : (r.register s).order = r.order ++ [s.key] := by simp [order_register, hheld]
    have hnew : s.key ∉ r.order := by simp [h.mem, hheld]
    constructor
    · rw [horder, List.nodup_append]
      refine ⟨h.distinct, List.pairwise_singleton _ _, fun a ha b hb => ?_⟩
      rw [List.mem_singleton.mp hb]
      rintro rfl
      exact hnew ha
    · intro key
      rw [hget, horder, List.mem_append, List.mem_singleton, h.mem, or_comm, eq_comm]
  | some handler =>
    have horder : (r.register s).order = r.order := by simp [order_register, hheld]
    constructor
    · rw [horder]
      exact h.distinct
    · intro key
      rw [hget, horder, h.mem, or_iff_right_of_imp]
      rintro rfl
      rw [hheld]
      rfl

theorem InStep.foldl_register {r : Registry σ} (h : r.InStep) (history : List (Slot σ)) :
    (history.foldl Registry.register r).InStep := by
  induction history generalizing r with
  | nil => exact h
  | cons s history ih => exact ih (h.register s)

end Registry

end PromptLine
