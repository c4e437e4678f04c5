import Mathlib.Data.List.Count
import PromptLine.Completion.Candidate
import PromptLine.Proofs.Text.Ends
import PromptLine.Proofs.Text.Split

namespace PromptLine

open Text (StartsOff EndsOff occurs)

structure Framed (b lead head trail : Text) : Prop where
  eq : b = lead ++ head ++ trail
  lead_blank : ∀ c ∈ lead, isBlank c = true
  trail_blank : ∀ c ∈ trail, isBlank c = true
  starts : StartsOff isBlank head
  ends : EndsOff isBlank head
  whole : head = [] → trail = []

namespace Framed

variable {b lead head trail : Text}

theorem exists_of (b : Text) : ∃ lead head trail, Framed b lead head trail := by
  obtain ⟨lead, hb, hlead, hs⟩ := Text.dropWhile_split isBlank b
  obtain ⟨trail, ht, htrail, he⟩ := Text.dropEndWhile_split isBlank (b.dropWhile isBlank)
  refine ⟨lead, _, trail, ⟨?_, hlead, htrail, ?_, he, ?_⟩⟩
  · rw [List.append_assoc, ← ht, ← hb]
  · cases hd : Text.dropEndWhile isBlank (b.dropWhile isBlank) with
    | nil => simp [StartsOff]
    | cons c head =>
      rw [ht, hd] at hs
      simpa [StartsOff] using hs
  · intro hnil
    rw [hnil, List.nil_append] at ht
    rw [ht] at hs
    cases trail with
    | nil => rfl
    | cons c trail =>
      have hc : isBlank c = true := htrail c (by simp)
      simp [StartsOff, hc] at hs

theorem trimStart_eq (h : Framed b lead head trail) : Text.trimStart b = head ++ trail := by
  refine Text.trimStart_eq_iff.mpr ⟨lead, by simp [h.eq], h.lead_blank, ?_⟩
  apply Text.startsOff_append h.starts
  intro hnil
  simp [h.whole hnil, StartsOff]

theorem trimEnd_eq (h : Framed b lead head trail) : Text.trimEnd (head ++ trail) = head :=
  Text.trimEnd_eq_iff.mpr ⟨trail, rfl, h.trail_blank, h.ends⟩

theorem not_mem_lead {c : Char} (h : Framed b lead head trail) (hc : isBlank c = false) :
    c ∉ lead := by
  intro hm
  simp [h.lead_blank c hm] at hc

theorem not_mem_trail {c : Char} (h : Framed b lead head trail) (hc : isBlank c = false) :
    c ∉ trail := by
  intro hm
  simp [h.trail_blank c hm] at hc

theorem mem_iff {c : Char} (h : Framed b lead head trail) (hc : isBlank c = false) :
    c ∈ b ↔ c ∈ head := by
  simp [h.eq, h.not_mem_lead hc, h.not_mem_trail hc]

theorem count_eq {c : Char} (h : Framed b lead head trail) (hc : isBlank c = false) :
    b.count c = head.count c := by
  simp [h.eq, List.count_eq_zero.mpr (h.not_mem_lead hc),
    List.count_eq_zero.mpr (h.not_mem_trail hc)]

end Framed

namespace Stage

def Fits (b : Text) : Stage → Prop
  | .provider => '(' ∉ b ∧ b.count '.' = 0
  | .model => '(' ∉ b ∧ b.count '.' = 1
  | .method => '(' ∉ b ∧ 2 ≤ b.count '.'
  | .arguments => '(' ∈ b

instance (b : Text) (s : Stage) : Decidable (s.Fits b) :=
  match s with
  | .provider => inferInstanceAs (Decidable ('(' ∉ b ∧ b.count '.' = 0))
  | .model => inferInstanceAs (Decidable ('(' ∉ b ∧ b.count '.' = 1))
  | .method => inferInstanceAs (Decidable ('(' ∉ b ∧ 2 ≤ b.count '.'))
  | .arguments => inferInstanceAs (Decidable ('(' ∈ b))

theorem Fits.unique {b : Text} {s t : Stage} (hs : s.Fits b) (ht : t.Fits b) : s = t := by
  cases s <;> cases t <;> simp only [Fits] at hs ht <;> first | rfl | omega | simp_all

theorem fits_append {x y : Text} {s : Stage} (hdot : '.' ∉ y) (hparen : '(' ∉ y) :
    s.Fits (x ++ y) ↔ s.Fits x := by
  have hcount : (x ++ y).count '.' = x.count '.' := by simp [List.count_eq_zero.mpr hdot]
  have hmem : '(' ∈ x ++ y ↔ '(' ∈ x := by simp [hparen]
  cases s <;> simp only [Fits, hcount, hmem]

end Stage

namespace Context

theorem resolve_eq_ofHead {text lead head trail : Text} {cursor : Nat}
    (h : Framed (text.take cursor) lead head trail) :
    resolve text cursor = ofHead head lead.length (text.take cursor).length := by
  have hlen : (text.take cursor).length - (head ++ trail).length = lead.length := by
    rw [h.eq]
    simp only [List.length_append]
    omega
  simp only [resolve, h.trimStart_eq, h.trimEnd_eq, hlen]

theorem ofHead_arguments {head : Text} (lead cursor : Nat) (h : '(' ∈ head) :
    ofHead head lead cursor = ⟨.arguments, [], ⟨cursor, cursor⟩, none, none⟩ := by
  rw [ofHead, if_pos h]

theorem ofHead_provider {s : Text} (lead cursor : Nat) (h : '(' ∉ s) (hs : '.' ∉ s) :
    ofHead s lead cursor = ⟨.provider, s, ⟨lead, cursor⟩, none, none⟩ := by
  rw [ofHead, if_neg h, Text.cut?_eq_none_iff.mpr hs]

theorem ofHead_model {p s : Text} (lead cursor : Nat) (h : '(' ∉ p ++ '.' :: s)
    (hp : '.' ∉ p) (hs : '.' ∉ s) :
    ofHead (p ++ '.' :: s) lead cursor =
      ⟨.model, s, ⟨lead + p.length + 1, cursor⟩, some p, none⟩ := by
  have hcut : Text.cut? '.' (p ++ '.' :: s) = some (p, s) := Text.cut?_eq_some_iff.mpr ⟨rfl, hp⟩
  rw [ofHead, if_neg h, hcut]
  simp only [Text.cutLast?_eq_none_iff.mpr hs]

theorem ofHead_method {p m s : Text} (lead cursor : Nat) (h : '(' ∉ p ++ '.' :: (m ++ '.' :: s))
    (hp : '.' ∉ p) (hs : '.' ∉ s) :
    ofHead (p ++ '.' :: (m ++ '.' :: s)) lead cursor =
      ⟨.method, s, ⟨lead + p.length + m.length + 2, cursor⟩, some p, some m⟩ := by
  have hcut : Text.cut? '.' (p ++ '.' :: (m ++ '.' :: s)) = some (p, m ++ '.' :: s) :=
    Text.cut?_eq_some_iff.mpr ⟨rfl, hp⟩
  have hlast : Text.cutLast? '.' (m ++ '.' :: s) = some (m, s) :=
    Text.cutLast?_eq_some_iff.mpr ⟨rfl, hs⟩
  rw [ofHead, if_neg h, hcut]
  simp only [hlast]

inductive Reads (b : Text) : Context → Prop where
  | arguments : '(' ∈ b → Reads b ⟨.arguments, [], ⟨b.length, b.length⟩, none, none⟩
  | provider {lead s trail : Text} : Framed b lead s trail → '(' ∉ b → '.' ∉ s →
      Reads b ⟨.provider, s, ⟨lead.length, b.length⟩, none, none⟩
  | model {lead p s trail : Text} : Framed b lead (p ++ '.' :: s) trail → '(' ∉ b →
      '.' ∉ p → '.' ∉ s →
      Reads b ⟨.model, s, ⟨lead.length + p.length + 1, b.length⟩, some p, none⟩
  | method {lead p m s trail : Text} : Framed b lead (p ++ '.' :: (m ++ '.' :: s)) trail →
      '(' ∉ b → '.' ∉ p → '.' ∉ s →
      Reads b ⟨.method, s, ⟨lead.length + p.length + m.length + 2, b.length⟩, some p, some m⟩

theorem reads_ofHead {b lead head trail : Text} (h : Framed b lead head trail) :
    Reads b (ofHead head lead.length b.length) := by
  have hparen : '(' ∈ b ↔ '(' ∈ head := h.mem_iff (by decide)
  by_cases ho : '(' ∈ head
  · rw [ofHead_arguments _ _ ho]
    exact .arguments (hparen.mpr ho)
  have hb : '(' ∉ b := fun hm => ho (hparen.mp hm)
  cases occurs '.' head with
  | never hs =>
    rw [ofHead_provider _ _ ho hs]
    exact .provider h hb hs
  | once hp hs =>
    rw [ofHead_model _ _ ho hp hs]
    exact .model h hb hp hs
  | often hp hs =>
    rw [ofHead_method _ _ ho hp hs]
    exact .method h hb hp hs

theorem resolve_eq_iff {text : Text} {cursor : Nat} {ctx : Context} :
    resolve text cursor = ctx ↔ Reads (text.take cursor) ctx := by
  constructor
  · rintro rfl
    obtain ⟨lead, head, trail, h⟩ := Framed.exists_of (text.take cursor)
    rw [resolve_eq_ofHead h]
    exact reads_ofHead h
  · intro h
    cases h with
    | arguments ho =>
      obtain ⟨lead, head, trail, h⟩ := Framed.exists_of (text.take cursor)
      rw [resolve_eq_ofHead h, ofHead_arguments _ _ ((h.mem_iff (by decide)).mp ho)]
    | provider h ho hs =>
      have hhead := (h.mem_iff (by decide)).not.mp ho
      rw [resolve_eq_ofHead h, ofHead_provider _ _ hhead hs]
    | model h ho hp hs =>
      have hhead := (h.mem_iff (by decide)).not.mp ho
      rw [resolve_eq_ofHead h, ofHead_model _ _ hhead hp hs]
    | method h ho hp hs =>
      have hhead := (h.mem_iff (by decide)).not.mp ho
      rw [resolve_eq_ofHead h, ofHead_method _ _ hhead hp hs]

theorem reads_resolve (text : Text) (cursor : Nat) :
    Reads (text.take cursor) (resolve text cursor) :=
  resolve_eq_iff.mp rfl

namespace Reads

variable {b : Text} {ctx : Context}

theorem stop_eq (h : Reads b ctx) : ctx.replaces.stop = b.length := by
  cases h <;> rfl

theorem stage_fits (h : Reads b ctx) : ctx.stage.Fits b := by
  cases h with
  | arguments ho => exact ho
  | provider h ho hs =>
    refine ⟨ho, ?_⟩
    rw [h.count_eq (by decide), List.count_eq_zero.mpr hs]
  | model h ho hp hs =>
    refine ⟨ho, ?_⟩
    rw [h.count_eq (by decide)]
    simp [List.count_eq_zero.mpr hp, List.count_eq_zero.mpr hs]
  | method h ho hp hs =>
    refine ⟨ho, ?_⟩
    rw [h.count_eq (by decide)]
    simp only [List.count_append, List.count_cons_self]
    omega

theorem stage_eq_iff {s : Stage} (h : Reads b ctx) : ctx.stage = s ↔ s.Fits b := by
  constructor
  · rintro rfl
    exact h.stage_fits
  · exact h.stage_fits.unique

theorem exists_before (h : Reads b ctx) :
    ∃ x trail, b = x ++ (ctx.typed ++ trail) ∧ ctx.replaces.start = x.length ∧
      '.' ∉ ctx.typed ++ trail ∧ '(' ∉ ctx.typed ++ trail := by
  cases h with
  | arguments ho => exact ⟨b, [], by simp, rfl, by simp, by simp⟩
  | @provider lead s trail h ho hs =>
    have hb : b = lead ++ (s ++ trail) := by simp [h.eq]
    refine ⟨lead, trail, hb, rfl, ?_, fun hm => ho (by rw [hb]; simp [hm])⟩
    simpa [hs] using h.not_mem_trail (by decide)
  | @model lead p s trail h ho hp hs =>
    have hb : b = (lead ++ p ++ ['.']) ++ (s ++ trail) := by simp [h.eq]
    refine ⟨_, trail, hb, by simp [Nat.add_assoc], ?_, fun hm => ho (by rw [hb]; simp [hm])⟩
    simpa [hs] using h.not_mem_trail (by decide)
  | @method lead p m s trail h ho hp hs =>
    have hb : b = (lead ++ p ++ '.' :: m ++ ['.']) ++ (s ++ trail) := by simp [h.eq]
    refine ⟨_, trail, hb, ?_, ?_, fun hm => ho (by rw [hb]; simp [hm])⟩
    · simp only [List.length_append, List.length_cons, List.length_nil]
      omega
    · simpa [hs] using h.not_mem_trail (by decide)

theorem typed_of_arguments (h : Reads b ctx) (ho : '(' ∈ b) :
    ctx.typed = [] ∧ ctx.replaces = ⟨b.length, b.length⟩ := by
  cases h with
  | arguments => exact ⟨rfl, rfl⟩
  | provider _ hb => exact absurd ho hb
  | model _ hb => exact absurd ho hb
  | method _ hb => exact absurd ho hb

theorem typed_after_dot {x y : Text} (h : Reads (x ++ (y ++ ['.'])) ctx) :
    ctx.typed = [] ∧
      ctx.replaces = ⟨(x ++ (y ++ ['.'])).length, (x ++ (y ++ ['.'])).length⟩ := by
  obtain ⟨before, trail, hb, hstart, hdot, _⟩ := h.exists_before
  have hstop := h.stop_eq
  have hnil : ctx.typed ++ trail = [] := by
    rcases List.eq_nil_or_concat (ctx.typed ++ trail) with hnil | ⟨u, c, hu⟩
    · exact hnil
    · rw [List.concat_eq_append] at hu
      rw [hu, ← List.append_assoc, ← List.append_assoc] at hb
      obtain ⟨_, hc⟩ := List.append_inj' hb rfl
      simp [hu, ← hc] at hdot
  rw [hnil, List.append_nil] at hb
  rw [← hb] at hstart
  refine ⟨(List.append_eq_nil_iff.mp hnil).1, ?_⟩
  obtain ⟨_, _, ⟨start, stop⟩, _, _⟩ := ctx
  exact congrArg₂ Extent.mk hstart hstop

end Reads

theorem start_le_stop (text : Text) (cursor : Nat) :
    (resolve text cursor).replaces.start ≤ (resolve text cursor).replaces.stop := by
  have hreads := reads_resolve text cursor
  obtain ⟨x, trail, hb, hstart, _, _⟩ := hreads.exists_before
  rw [hreads.stop_eq, hstart, hb, List.length_append]
  exact Nat.le_add_right _ _

theorem stop_eq_cursor {text : Text} {cursor : Nat} (h : cursor ≤ text.length) :
    (resolve text cursor).replaces.stop = cursor := by
  rw [(reads_resolve text cursor).stop_eq, List.length_take, Nat.min_eq_left h]

end Context

end PromptLine
