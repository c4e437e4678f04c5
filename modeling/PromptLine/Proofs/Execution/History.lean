import Mathlib.Data.List.Forall2
import Mathlib.Data.List.Induction
import Mathlib.Data.List.Nodup
import PromptLine.Proofs.Execution.Registry
import PromptLine.Proofs.Firsts

namespace PromptLine

def Slot.noted {σ : Type} (s : Slot σ) : Slot (σ × List Command) :=
  ⟨s.provider, s.method, s.handler.noted⟩

namespace Registry

variable {σ α β : Type}

inductive Step (σ : Type) where
  | register (index : Nat) (s : Slot σ)
  | clone (index : Nat)

/-- A registration changes what stands at its index and nothing else. A clone stands at the end. -/
def Step.take (extend : α → Slot σ → α) (all : List α) : Step σ → List α
  | .register index s => all.modify index (extend · s)
  | .clone index => all ++ all[index]?.toList

def takeAll (extend : α → Slot σ → α) (start : α) (steps : List (Step σ)) : List α :=
  steps.foldl (Step.take extend) [start]

def run (steps : List (Step σ)) : List (Registry σ) := takeAll register empty steps

def histories (steps : List (Step σ)) : List (List (Slot σ)) :=
  takeAll (fun history s => history ++ [s]) [] steps

def ofHistory (history : List (Slot σ)) : Registry σ := history.foldl register empty

theorem ofHistory_concat (history : List (Slot σ)) (s : Slot σ) :
    ofHistory (history ++ [s]) = (ofHistory history).register s := by
  rw [ofHistory, List.foldl_append]
  rfl

theorem Step.take_map {f : α → β} {extend : α → Slot σ → α} {extend' : β → Slot σ → β}
    (h : ∀ a s, f (extend a s) = extend' (f a) s) (all : List α) (step : Step σ) :
    (step.take extend all).map f = step.take extend' (all.map f) := by
  cases step with
  | register index s =>
    refine List.ext_getElem? fun i => ?_
    simp only [take, List.getElem?_map, List.getElem?_modify]
    cases all[i]? with
    | none => rfl
    | some a =>
      by_cases hi : index = i
      · simp [hi, h]
      · simp [hi]
  | clone index =>
    rw [take, take, List.map_append, List.getElem?_map]
    cases all[index]? with
    | none => rfl
    | some a => rfl

theorem takeAll_map {f : α → β} {extend : α → Slot σ → α} {extend' : β → Slot σ → β}
    (h : ∀ a s, f (extend a s) = extend' (f a) s) (start : α) (steps : List (Step σ)) :
    (takeAll extend start steps).map f = takeAll extend' (f start) steps := by
  induction steps using List.reverseRecOn with
  | nil => rfl
  | append_singleton steps step ih =>
    rw [takeAll, takeAll, List.foldl_append, List.foldl_append, List.foldl_cons, List.foldl_cons,
      List.foldl_nil, List.foldl_nil, Step.take_map h]
    exact congrArg (Step.take extend' · step) ih

theorem run_eq_map_histories (steps : List (Step σ)) :
    run steps = (histories steps).map ofHistory :=
  (takeAll_map ofHistory_concat [] steps).symm

section

variable {r : Registry σ} {provider method : Text}

theorem inStep_ofHistory (history : List (Slot σ)) : (ofHistory history).InStep :=
  inStep_empty.foldl_register history

theorem order_ofHistory (history : List (Slot σ)) :
    (ofHistory history).order = firstsBy id (history.map Slot.key) := by
  induction history using List.reverseRecOn with
  | nil => rfl
  | append_singleton history s ih =>
    -- What is in the map already is in the order, and the order holds what has been registered.
    have hheld : ((ofHistory history).handlers.get? s.key).isSome = true ↔
        s.key ∈ history.map Slot.key := by
      rw [← (inStep_ofHistory history).mem, ih]
      exact (firsts_firstsBy _).mem s.key
    rw [ofHistory_concat, order_register, ih, List.map_append, List.map_singleton, firstsBy_concat]
    by_cases hs : s.key ∈ history.map Slot.key
    · rw [if_pos hs, if_pos (hheld.mpr hs)]
    · rw [if_neg hs, if_neg (mt hheld.mp hs)]

theorem providers_ofHistory (history : List (Slot σ)) :
    (ofHistory history).providers = firstsBy id (history.map Slot.provider) := by
  rw [providers, order_ofHistory, firstsBy_map_firstsBy, List.map_map]
  rfl

theorem methods_ofHistory (history : List (Slot σ)) (provider : Text) :
    (ofHistory history).methods provider =
      firstsBy id ((history.filter (·.provider = provider)).map Slot.method) := by
  -- Keys of one provider that differ differ in the method, so that to take firsts again is to
  -- change nothing.
  have hnodup : (((firstsBy id (history.map Slot.key)).filter (·.1 = provider)).map
      Prod.snd).Nodup := by
    refine List.Nodup.map_on (fun x hx y hy hxy => ?_)
      (List.Nodup.filter _ (firsts_firstsBy (history.map Slot.key)).nodup)
    have hx₁ : x.1 = provider := of_decide_eq_true (List.mem_filter.mp hx).2
    have hy₁ : y.1 = provider := of_decide_eq_true (List.mem_filter.mp hy).2
    exact Prod.ext (hx₁.trans hy₁.symm) hxy
  have hself := firstsBy_of_nodup id (by rwa [List.map_id])
  rw [methods, order_ofHistory, ← hself, ← firstsBy_filter, firstsBy_map_firstsBy,
    List.filter_map, List.map_map]
  rfl

theorem mem_order_iff : (provider, method) ∈ r.order ↔
    provider ∈ r.providers ∧ method ∈ r.methods provider := by
  have hproviders := (firsts_firstsBy (r.order.map Prod.fst)).mem provider
  rw [providers, hproviders, methods]
  simp only [List.mem_map, List.mem_filter, decide_eq_true_eq, Prod.exists]
  constructor
  · intro h
    exact ⟨⟨provider, method, h, rfl⟩, provider, method, ⟨h, rfl⟩, rfl⟩
  · rintro ⟨_, p, m, ⟨h, rfl⟩, rfl⟩
    exact h

theorem providers_eq_nil_iff : r.providers = [] ↔ r.order = [] := by
  cases h : r.order with
  | nil => simp [providers, h, firstsBy]
  | cons key keys => simp [providers, h, firstsBy]

theorem InStep.isEmpty_iff (h : r.InStep) : r.isEmpty = true ↔ r.providers = [] := by
  rw [providers_eq_nil_iff, isEmpty, Handlers.isEmpty_iff, List.eq_nil_iff_forall_not_mem]
  simp only [h.mem, Option.not_isSome_iff_eq_none]

def Newest (history : List (Slot σ)) (key : Text × Text) (s : Slot σ) : Prop :=
  ∃ before after, history = before ++ s :: after ∧ s.key = key ∧ ∀ t ∈ after, t.key ≠ key

theorem newest_concat_iff {history : List (Slot σ)} {s t : Slot σ} {key : Text × Text} :
    Newest (history ++ [t]) key s ↔
      t.key = key ∧ s = t ∨ t.key ≠ key ∧ Newest history key s := by
  constructor
  · rintro ⟨before, after, hsplit, hs, hafter⟩
    -- The newest stands at the end, or the end is one of those behind it.
    cases after using List.reverseRecOn with
    | nil =>
      obtain ⟨rfl, hst⟩ := List.append_inj' hsplit rfl
      obtain rfl : t = s := by simpa using hst
      exact .inl ⟨hs, rfl⟩
    | append_singleton after u =>
      rw [← List.cons_append, ← List.append_assoc] at hsplit
      obtain ⟨rfl, htu⟩ := List.append_inj' hsplit rfl
      obtain rfl : t = u := by simpa using htu
      exact .inr ⟨hafter t (by simp), before, after, rfl, hs, fun x hx => hafter x (by simp [hx])⟩
  · rintro (⟨ht, rfl⟩ | ⟨ht, before, after, rfl, hs, hafter⟩)
    · exact ⟨history, [], rfl, ht, by simp⟩
    · refine ⟨before, after ++ [t], by simp, hs, fun x hx => ?_⟩
      rcases List.mem_append.mp hx with hx | hx
      · exact hafter x hx
      · rwa [List.mem_singleton.mp hx]

theorem lookup?_ofHistory_iff {history : List (Slot σ)} {handler : Executor σ} :
    (ofHistory history).lookup? provider method = some handler ↔
      ∃ s, Newest history (provider, method) s ∧ s.handler = handler := by
  induction history using List.reverseRecOn with
  | nil =>
    refine iff_of_false nofun ?_
    rintro ⟨s, ⟨before, after, hsplit, _⟩, _⟩
    simp at hsplit
  | append_singleton history t ih =>
    rw [ofHistory_concat, lookup?_register]
    simp only [newest_concat_iff]
    by_cases ht : t.key = (provider, method)
    · simp [ht]
    · simp [ht, ih]

theorem ofHistory_noted (history : List (Slot σ)) (c : Command) (w : σ) (seen : List Command) :
    (ofHistory (history.map Slot.noted)).execute c (w, seen) =
      (((ofHistory history).execute c w).1, ((ofHistory history).execute c w).2,
        if (c.provider, c.method) ∈ history.map Slot.key then seen ++ [c] else seen) := by
  induction history using List.reverseRecOn with
  | nil => rfl
  | append_singleton history s ih =>
    rw [List.map_append, List.map_singleton, ofHistory_concat, ofHistory_concat]
    simp only [execute, lookup?_register] at ih ⊢
    by_cases hs : s.key = (c.provider, c.method)
    · have hnoted : s.noted.key = (c.provider, c.method) := hs
      simp only [hs, hnoted, if_true]
      simp [hs]
      rfl
    · have hnoted : s.noted.key ≠ (c.provider, c.method) := hs
      simp only [hs, hnoted, if_false]
      simpa [Ne.symm hs] using ih

structure Reflects (history : List (Slot σ)) (r : Registry σ) : Prop where
  order : Firsts (history.map Slot.key) r.order
  inStep : r.InStep
  newest : ∀ p m handler, r.lookup? p m = some handler ↔
    ∃ s, Newest history (p, m) s ∧ s.handler = handler
  providers : Firsts (history.map Slot.provider) r.providers
  methods : ∀ p, Firsts ((history.filter (·.provider = p)).map Slot.method) (r.methods p)
  listed : ∀ p m, (r.lookup? p m).isSome = true ↔ p ∈ r.providers ∧ m ∈ r.methods p
  empty : r.isEmpty = true ↔ r.providers = []
  executes : ∀ c s, Newest history (c.provider, c.method) s → r.execute c = s.handler c
  unsupported : ∀ c w, (c.provider, c.method) ∉ history.map Slot.key →
    r.execute c w = (.error (.unsupported c.provider c.method), w)
  called : ∀ c w seen, (ofHistory (history.map Slot.noted)).execute c (w, seen) =
    ((r.execute c w).1, (r.execute c w).2,
      if (c.provider, c.method) ∈ history.map Slot.key then seen ++ [c] else seen)

theorem reflects_ofHistory (history : List (Slot σ)) : Reflects history (ofHistory history) := by
  have hstep := inStep_ofHistory history
  have horder : Firsts (history.map Slot.key) (ofHistory history).order := by
    rw [order_ofHistory]
    exact firsts_firstsBy _
  exact {
    order := horder
    inStep := hstep
    newest := fun p m handler => lookup?_ofHistory_iff
    providers := by
      rw [providers_ofHistory]
      exact firsts_firstsBy _
    methods := by
      intro p
      rw [methods_ofHistory]
      exact firsts_firstsBy _
    listed := fun p m => (hstep.mem (p, m)).symm.trans mem_order_iff
    empty := hstep.isEmpty_iff
    executes := by
      intro c s hs
      have hlookup := lookup?_ofHistory_iff.mpr ⟨s, hs, rfl⟩
      simp only [execute, hlookup]
    unsupported := by
      intro c w hc
      have hlookup : (ofHistory history).lookup? c.provider c.method = none := by
        rw [← Option.not_isSome_iff_eq_none, lookup?, ← hstep.mem, horder.mem]
        exact hc
      simp only [execute, hlookup]
      rfl
    called := ofHistory_noted history }

end

theorem registries_reflect_their_histories (steps : List (Step σ)) :
    List.Forall₂ Reflects (histories steps) (run steps) := by
  rw [run_eq_map_histories, List.forall₂_map_right_iff, List.forall₂_same]
  exact fun history _ => reflects_ofHistory history

example (s t : Slot σ) :
    histories [.register 0 s, .clone 0, .register 1 t, .register 0 s] = [[s, s], [s, t]] := rfl

end Registry

end PromptLine
