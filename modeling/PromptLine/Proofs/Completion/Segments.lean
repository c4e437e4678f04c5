import PromptLine.Proofs.Command.Marks
import PromptLine.Proofs.Completion.Context

namespace PromptLine

open Text (StartsOff EndsOff occurs)

open Utf8 (slice?_front slice?_back size_concat_dot)

theorem Framed.trim_eq {b lead head trail : Text} (h : Framed b lead head trail) :
    Text.trim b = head := by
  rw [Text.trim, h.trimStart_eq, h.trimEnd_eq]

namespace Context

def front (ctx : Context) : Text :=
  match ctx.provider, ctx.model with
  | none, _ => []
  | some p, none => p ++ ['.']
  | some p, some m => p ++ '.' :: (m ++ ['.'])

def Spells (ctx : Context) (t : Text) : Prop :=
  match ctx.stage, ctx.provider, ctx.model with
  | .provider, none, none => t = ctx.typed
  | .model, some p, none => '.' ∉ p ∧ t = p ++ '.' :: ctx.typed
  | .method, some p, some m => '.' ∉ p ∧ t = p ++ '.' :: (m ++ '.' :: ctx.typed)
  | _, _, _ => False

variable {b : Text} {ctx : Context}

theorem Reads.framed (h : Reads b ctx) (hparen : '(' ∉ b) : ∃ lead trail,
    Framed b lead (ctx.front ++ ctx.typed) trail ∧
      ctx.replaces.start = (lead ++ ctx.front).length ∧ '.' ∉ ctx.typed ∧
      ctx.Spells (ctx.front ++ ctx.typed) := by
  cases h with
  | arguments hopen => exact absurd hopen hparen
  | provider hframed _ hs => exact ⟨_, _, hframed, by simp [front], hs, rfl⟩
  | @model lead p s trail hframed _ hp hs =>
    have hhead : p ++ '.' :: s = p ++ ['.'] ++ s := by simp
    rw [hhead] at hframed
    exact ⟨_, _, hframed, by simp [front, Nat.add_assoc], hs, hp, hhead.symm⟩
  | @method lead p m s trail hframed _ hp hs =>
    have hhead : p ++ '.' :: (m ++ '.' :: s) = p ++ '.' :: (m ++ ['.']) ++ s := by simp
    rw [hhead] at hframed
    refine ⟨_, _, hframed, ?_, hs, hp, hhead.symm⟩
    simp only [front, List.length_append, List.length_cons, List.length_nil]
    omega

theorem fits_trim_iff {s : Stage} (b : Text) : s.Fits (Text.trim b) ↔ s.Fits b := by
  obtain ⟨lead, head, trail, h⟩ := Framed.exists_of b
  have hparen : '(' ∈ b ↔ '(' ∈ head := h.mem_iff (by decide)
  have hcount : b.count '.' = head.count '.' := h.count_eq (by decide)
  rw [h.trim_eq]
  cases s <;> simp only [Stage.Fits, hparen, hcount]

def ofHeadBytes? (head : Text) (lead cursor : Nat) : Option Context :=
  let marks := Marks.scan head
  let extent (byte : Nat) : Option Extent :=
    (Utf8.slice? head 0 byte).map fun front => ⟨lead + front.length, cursor⟩
  if marks.openParen.isSome then some ⟨.arguments, [], ⟨cursor, cursor⟩, none, none⟩
  else
    match marks.firstDot, marks.lastDot with
    | some first, some last =>
        if first = last then do
          let typed ← Utf8.slice? head (first + 1) (Utf8.size head)
          let replaces ← extent (first + 1)
          let provider ← Utf8.slice? head 0 first
          return ⟨.model, typed, replaces, some provider, none⟩
        else do
          let typed ← Utf8.slice? head (last + 1) (Utf8.size head)
          let replaces ← extent (last + 1)
          let provider ← Utf8.slice? head 0 first
          let model ← Utf8.slice? head (first + 1) last
          return ⟨.method, typed, replaces, some provider, some model⟩
    | _, _ => do
        let replaces ← extent 0
        return ⟨.provider, head, replaces, none, none⟩

def resolveBytes? (text : Text) (cursor : Nat) : Option Context := do
  let cursor := min cursor text.length
  let before ← Utf8.slice? text 0 (Utf8.byteOffset text cursor)
  let current := Text.trimStart before
  ofHeadBytes? (Text.trimEnd current) (before.length - current.length) cursor

theorem ofHeadBytes?_arguments {head : Text} (lead cursor : Nat) (h : '(' ∈ head) :
    ofHeadBytes? head lead cursor = some (ofHead head lead cursor) := by
  rw [ofHead_arguments _ _ h]
  exact if_pos (Marks.openParen_scan_isSome_iff.mpr h)

theorem ofHeadBytes?_provider {head : Text} (lead cursor : Nat) (h : '(' ∉ head)
    (hs : '.' ∉ head) : ofHeadBytes? head lead cursor = some (ofHead head lead cursor) := by
  have hfront : Utf8.slice? head 0 0 = some [] := slice?_front [] head
  rw [ofHead_provider _ _ h hs, ofHeadBytes?, Marks.scan_of_no_dot h hs]
  simp only [hfront]
  rfl

theorem ofHeadBytes?_model {p s : Text} (lead cursor : Nat) (h : '(' ∉ p ++ '.' :: s)
    (hp : '.' ∉ p) (hs : '.' ∉ s) : ofHeadBytes? (p ++ '.' :: s) lead cursor =
      some (ofHead (p ++ '.' :: s) lead cursor) := by
  have hhead : p ++ '.' :: s = p ++ ['.'] ++ s := by simp
  have hprovider := slice?_front p ('.' :: s)
  have hextent := slice?_front (p ++ ['.']) s
  have htyped := slice?_back (p ++ ['.']) s
  rw [← hhead, size_concat_dot] at hextent htyped
  rw [ofHead_model _ _ h hp hs, ofHeadBytes?, Marks.scan_of_one_dot h hp hs]
  simp only [if_true, htyped, hextent, hprovider, Option.map_some, List.length_append,
    List.length_singleton]
  rfl

theorem ofHeadBytes?_method {p m s : Text} (lead cursor : Nat)
    (h : '(' ∉ p ++ '.' :: (m ++ '.' :: s)) (hp : '.' ∉ p) (hs : '.' ∉ s) :
    ofHeadBytes? (p ++ '.' :: (m ++ '.' :: s)) lead cursor =
      some (ofHead (p ++ '.' :: (m ++ '.' :: s)) lead cursor) := by
  have hdivides : Path.Divides ⟨p, m, s⟩ (p ++ '.' :: (m ++ '.' :: s)) := ⟨rfl, hp, hs⟩
  obtain ⟨hprovider, hmodel, htyped⟩ := hdivides.slices
  have hhead : p ++ '.' :: (m ++ '.' :: s) = p ++ '.' :: m ++ ['.'] ++ s := by simp
  have hextent := slice?_front (p ++ '.' :: m ++ ['.']) s
  have hlength : lead + (p ++ '.' :: m ++ ['.']).length = lead + p.length + m.length + 2 := by
    simp only [List.length_append, List.length_cons, List.length_nil]
    omega
  have hapart : Utf8.size p ≠ Utf8.size (p ++ '.' :: m) :=
    Nat.ne_of_lt (Utf8.size_lt_append_cons p '.' m)
  rw [← hhead, size_concat_dot] at hextent
  rw [ofHead_method _ _ h hp hs, ofHeadBytes?, Marks.scan_of_divides h hdivides]
  simp only [if_neg hapart, htyped, hextent, hprovider, hmodel, Option.map_some, hlength]
  rfl

theorem ofHeadBytes?_eq (head : Text) (lead cursor : Nat) :
    ofHeadBytes? head lead cursor = some (ofHead head lead cursor) := by
  by_cases hparen : '(' ∈ head
  · exact ofHeadBytes?_arguments lead cursor hparen
  cases occurs '.' head with
  | never hdot => exact ofHeadBytes?_provider lead cursor hparen hdot
  | once hp hs => exact ofHeadBytes?_model lead cursor hparen hp hs
  | often hp hs => exact ofHeadBytes?_method lead cursor hparen hp hs

theorem resolveBytes?_eq (text : Text) (cursor : Nat) :
    resolveBytes? text cursor = some (resolve text cursor) := by
  have hbefore := slice?_front (text.take cursor) (text.drop cursor)
  have hoffset := Utf8.byteOffset_append (text.take cursor) (text.drop cursor)
  rw [List.take_append_drop, List.length_take] at hoffset
  rw [List.take_append_drop, ← hoffset] at hbefore
  simp only [resolveBytes?, hbefore]
  rw [← List.length_take]
  exact ofHeadBytes?_eq _ _ _

theorem Reads.drop_start {lead trail : Text} (h : Framed b lead (ctx.front ++ ctx.typed) trail)
    (hstart : ctx.replaces.start = (lead ++ ctx.front).length) :
    Text.trimEnd (b.drop ctx.replaces.start) = ctx.typed := by
  have hcovered : b.drop ctx.replaces.start = ctx.typed ++ trail := by
    rw [hstart, h.eq, ← List.append_assoc lead, List.append_assoc]
    exact List.drop_left
  rw [hcovered]
  exact Text.trimEnd_eq_iff.mpr ⟨trail, rfl, h.trail_blank, h.ends.of_append⟩

theorem text_is_read_by_its_characters (text : Text) (cursor : Nat) :
    let before := text.take cursor
    let t := Text.trim before
    let ctx := resolve text cursor
    (∀ stage, ctx.stage = stage ↔ stage.Fits t) ∧
    ctx.replaces.start ≤ ctx.replaces.stop ∧ ctx.replaces.stop = min cursor text.length ∧
    (ctx.stage ≠ .arguments →
      Text.trimEnd ((text.take ctx.replaces.stop).drop ctx.replaces.start) = ctx.typed ∧
      '.' ∉ ctx.typed ∧
      ∃ l r, (∀ c ∈ l, isBlank c = true) ∧ (∀ c ∈ r, isBlank c = true) ∧
        ∃ segments, ctx.Spells segments ∧ before = l ++ segments ++ r) ∧
    (∀ other : Text, other.take cursor = before → resolve other cursor = ctx) ∧
    resolveBytes? text cursor = some ctx := by
  intro before t ctx
  have hreads : Reads before ctx := reads_resolve text cursor
  have hstop : ctx.replaces.stop = min cursor text.length := by
    rw [hreads.stop_eq, List.length_take]
  refine ⟨fun stage => hreads.stage_eq_iff.trans (fits_trim_iff before).symm,
    start_le_stop text cursor, hstop, fun hstage => ?_, fun other hother => ?_,
    resolveBytes?_eq text cursor⟩
  · have hparen : '(' ∉ before := fun hopen =>
      hstage (hreads.stage_eq_iff.mpr (show Stage.arguments.Fits before from hopen))
    obtain ⟨lead, trail, hframed, hstart, hdot, hspells⟩ := hreads.framed hparen
    have hbefore : text.take ctx.replaces.stop = before := by
      rw [hstop]
      exact List.take_eq_take_min.symm
    rw [hbefore]
    exact ⟨Reads.drop_start hframed hstart, hdot, lead, trail, hframed.lead_blank,
      hframed.trail_blank, _, hspells, hframed.eq⟩
  · refine resolve_eq_iff.mpr ?_
    rw [hother]
    exact hreads

theorem wide_text_is_read :
    (resolve "\u3000é.a.b\u2003 (".toList 7).stage = .method ∧
      Text.trimEnd (("\u3000é.a.b\u2003 (".toList.take 7).drop 5) = "b".toList := by
  have hread := text_is_read_by_its_characters "\u3000é.a.b\u2003 (".toList 7
  have hstage := (hread.1 .method).mpr (by decide)
  have hcovered := (hread.2.2.2.1 (by rw [hstage]; decide)).1
  exact ⟨hstage, hcovered⟩

end Context

end PromptLine
