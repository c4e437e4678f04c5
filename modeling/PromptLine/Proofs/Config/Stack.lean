import PromptLine.Proofs.Config.Layers

namespace PromptLine.Layer

open Setting (ofLayer_overlay ofConfig_applyTo ofLayer_empty layer_ext)

def stack (layers : List Layer) : Layer := layers.foldl overlay empty

variable {layers : List Layer} {s : Setting} {v : Setting.Value}

theorem stack_concat (layers : List Layer) (l : Layer) :
    stack (layers ++ [l]) = (stack layers).overlay l :=
  List.foldl_append

theorem overlay_assoc (a b c : Layer) : (a.overlay b).overlay c = a.overlay (b.overlay c) :=
  layer_ext fun s => by simp only [ofLayer_overlay, Option.or_assoc]

theorem empty_overlay (a : Layer) : empty.overlay a = a :=
  layer_ext fun s => by rw [ofLayer_overlay, ofLayer_empty, Option.or_none]

theorem overlay_empty (a : Layer) : a.overlay empty = a :=
  layer_ext fun s => by rw [ofLayer_overlay, ofLayer_empty, Option.none_or]

theorem overlay_self (a : Layer) : a.overlay a = a :=
  layer_ext fun s => by rw [ofLayer_overlay, Option.or_self]

theorem overlay_twice (a b : Layer) : (a.overlay b).overlay b = a.overlay b := by
  rw [overlay_assoc, overlay_self]

theorem empty_applyTo (c : Config) : empty.applyTo c = c :=
  Setting.config_ext fun s => by rw [ofConfig_applyTo, ofLayer_empty, Option.none_or]

theorem overlay_applyTo (a b : Layer) (c : Config) :
    (a.overlay b).applyTo c = b.applyTo (a.applyTo c) :=
  Setting.config_ext fun s => by simp only [ofConfig_applyTo, ofLayer_overlay, Option.or_assoc]

theorem ofLayer_stack (layers : List Layer) (s : Setting) :
    s.ofLayer (stack layers) = layers.reverse.findSome? s.ofLayer := by
  -- on the layer on top, which is asked before those below it
  induction layers using List.reverseRecOn with
  | nil => exact ofLayer_empty s
  | append_singleton layers l ih =>
    rw [stack_concat, ofLayer_overlay, ih, List.reverse_concat, List.findSome?_cons]
    cases s.ofLayer l <;> rfl

theorem ofLayer_stack_eq_some_iff : s.ofLayer (stack layers) = some v ↔
    ∃ before l behind, layers = before ++ l :: behind ∧ s.ofLayer l = some v ∧
      ∀ x ∈ behind, s.ofLayer x = none := by
  rw [ofLayer_stack, List.findSome?_eq_some_iff]
  constructor
  · rintro ⟨behind, l, before, hsplit, hl, hbehind⟩
    refine ⟨before.reverse, l, behind.reverse, ?_, hl, fun x hx => hbehind x (List.mem_reverse.mp hx)⟩
    rw [← List.reverse_reverse layers, hsplit]
    simp
  · rintro ⟨before, l, behind, rfl, hl, hbehind⟩
    exact ⟨behind.reverse, l, before.reverse, by simp, hl,
      fun x hx => hbehind x (List.mem_reverse.mp hx)⟩

theorem ofLayer_stack_eq_none_iff :
    s.ofLayer (stack layers) = none ↔ ∀ l ∈ layers, s.ofLayer l = none := by
  simp only [ofLayer_stack, List.findSome?_eq_none_iff, List.mem_reverse]

theorem stack_applyTo (layers : List Layer) (c : Config) :
    (stack layers).applyTo c = layers.foldl (fun c l => l.applyTo c) c := by
  induction layers using List.reverseRecOn with
  | nil => exact empty_applyTo c
  | append_singleton layers l ih =>
    rw [stack_concat, overlay_applyTo, ih, List.foldl_append, List.foldl_cons, List.foldl_nil]

theorem stacked_layers_act_in_turn (layers : List Layer) :
    (∀ (s : Setting) v, s.ofLayer (stack layers) = some v ↔
      ∃ before l behind, layers = before ++ l :: behind ∧ s.ofLayer l = some v ∧
        ∀ x ∈ behind, s.ofLayer x = none) ∧
    (∀ s : Setting, s.ofLayer (stack layers) = none ↔ ∀ l ∈ layers, s.ofLayer l = none) ∧
    (∀ a b c : Layer, (a.overlay b).overlay c = a.overlay (b.overlay c)) ∧
    (∀ a : Layer, empty.overlay a = a ∧ a.overlay empty = a ∧ a.overlay a = a) ∧
    (∀ a b : Layer, (a.overlay b).overlay b = a.overlay b) ∧
    ∀ c : Config, (stack layers).applyTo c = layers.foldl (fun c l => l.applyTo c) c :=
  ⟨fun _ _ => ofLayer_stack_eq_some_iff, fun _ => ofLayer_stack_eq_none_iff, overlay_assoc,
    fun a => ⟨empty_overlay a, overlay_empty a, overlay_self a⟩, overlay_twice,
    stack_applyTo layers⟩

example : stack [{ provider := some ['P'], pageSize := some 1 }, { pageSize := some 2 }, {}] =
    { provider := some ['P'], pageSize := some 2 } := rfl

end PromptLine.Layer
