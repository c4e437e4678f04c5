import PromptLine.Proofs.Completion.Segments
import PromptLine.Proofs.Completion.Candidate

namespace PromptLine

theorem Context.Reads.exists_segment {b : Text} {ctx : Context} (h : Reads b ctx) :
    ∃ before trail, b = before ++ (ctx.typed ++ trail) ∧ (∀ c ∈ trail, isBlank c = true) ∧
      ctx.replaces.start = before.length := by
  by_cases hparen : '(' ∈ b
  · obtain ⟨htyped, hreplaces⟩ := h.typed_of_arguments hparen
    refine ⟨b, [], ?_, List.forall_mem_nil _, ?_⟩
    · rw [htyped, List.append_nil, List.append_nil]
    · rw [hreplaces]
  · obtain ⟨lead, trail, hframed, hstart, _, _⟩ := h.framed hparen
    refine ⟨lead ++ ctx.front, trail, ?_, hframed.trail_blank, hstart⟩
    rw [hframed.eq, List.append_assoc, List.append_assoc, List.append_assoc]

namespace Candidate

variable {c : Candidate} {text : Text}

def applyToBytes? (c : Candidate) (text : Text) : Option (Text × Nat) := do
  let start := min c.replaces.start text.length
  let stop := max (min c.replaces.stop text.length) start
  let before ← Utf8.slice? text 0 (Utf8.byteOffset text start)
  let behind ← Utf8.slice? text (Utf8.byteOffset text stop) (Utf8.size text)
  return (before ++ c.insert ++ behind, start + c.insert.length)

theorem exists_replaced (c : Candidate) (text : Text) : ∃ before old behind,
    text = before ++ old ++ behind ∧ before.length = min c.replaces.start text.length ∧
      (before ++ old).length =
        max (min c.replaces.start text.length) (min c.replaces.stop text.length) := by
  let start := min c.replaces.start text.length
  let stop := max start (min c.replaces.stop text.length)
  refine ⟨text.take start, (text.take stop).drop start, text.drop stop, ?_, ?_, ?_⟩
  · have hstart : text.take start = (text.take stop).take start := by
      rw [List.take_take, Nat.min_eq_left (Nat.le_max_left _ _)]
    rw [hstart, List.take_append_drop, List.take_append_drop]
  · rw [List.length_take]
    omega
  · rw [List.length_append, List.length_drop, List.length_take, List.length_take]
    omega

theorem applyToBytes?_eq (c : Candidate) (text : Text) :
    c.applyToBytes? text = some (c.applyTo text) := by
  obtain ⟨before, old, behind, ht, hstart, hstop⟩ := c.exists_replaced text
  have hbefore : Utf8.slice? text 0 (Utf8.byteOffset text before.length) = some before := by
    rw [ht, List.append_assoc, Utf8.byteOffset_append, Utf8.slice?_front]
  have hbehind : Utf8.slice? text (Utf8.byteOffset text (before ++ old).length)
      (Utf8.size text) = some behind := by
    rw [ht, Utf8.byteOffset_append, Utf8.slice?_back]
  rw [applyTo_clamped ht hstart hstop, applyToBytes?, Nat.max_comm, ← hstop, ← hstart, hbefore,
    hbehind, List.length_append]
  rfl

theorem edit_keeps_what_it_does_not_replace (c : Candidate) (text : Text) :
    let start := min c.replaces.start text.length
    let stop := max start (min c.replaces.stop text.length)
    let edited := c.applyTo text
    (∃ before old behind, text = before ++ old ++ behind ∧ before.length = start ∧
      (before ++ old).length = stop ∧ edited.1 = before ++ c.insert ++ behind) ∧
    edited.1.length = text.length - (stop - start) + c.insert.length ∧
    edited.2 = start + c.insert.length ∧ edited.2 ≤ edited.1.length ∧
    c.applyToBytes? text = some edited ∧
    ∀ (k : Completer) (cursor : Nat) (catalog : Catalog),
      c ∈ (k.complete text cursor catalog).candidates →
        ∃ before trail, text.take cursor =
          before ++ ((Context.resolve text cursor).typed ++ trail) ∧
          (∀ x ∈ trail, isBlank x = true) ∧ c.replaces.start = before.length ∧
          edited = (before ++ c.insert ++ text.drop cursor, (before ++ c.insert).length) := by
  intro start stop edited
  obtain ⟨before, old, behind, ht, hstart, hstop⟩ := c.exists_replaced text
  have hedited : edited.1 = before ++ c.insert ++ behind :=
    congrArg Prod.fst (applyTo_clamped ht hstart hstop)
  refine ⟨⟨before, old, behind, ht, hstart, hstop, hedited⟩, ?_, rfl, c.cursor_applyTo_le text,
    c.applyToBytes?_eq text, fun k cursor catalog hmem => ?_⟩
  · have hlength : text.length = stop + behind.length := by
      rw [congrArg List.length ht, List.length_append, hstop]
    rw [hedited, List.length_append, List.length_append, hstart, hlength]
    omega
  · have hreplaces : c.replaces = (Context.resolve text cursor).replaces :=
      Completer.replaces_of_mem hmem
    obtain ⟨before, trail, hbefore, htrail, hstart⟩ :=
      (Context.reads_resolve text cursor).exists_segment
    exact ⟨before, trail, hbefore, htrail, hreplaces ▸ hstart,
      applyTo_of_replaces hreplaces hbefore hstart⟩

end Candidate

def accentedCompleter : Completer := ⟨["ét".toList]⟩

def accentedName : Candidate := ⟨"ét".toList, "ét.".toList, ⟨1, 3⟩, none⟩

theorem Candidate.wide_blanks_are_kept :
    accentedName ∈
      (accentedCompleter.complete "\u3000É\u2003\u2003(".toList 3 dottedCatalog).candidates ∧
    ∃ before, before.length = 1 ∧ accentedName.applyTo "\u3000É\u2003\u2003(".toList =
      (before ++ "ét.".toList ++ "\u2003(".toList, before.length + 3) := by
  have hmem : accentedName ∈
      (accentedCompleter.complete "\u3000É\u2003\u2003(".toList 3 dottedCatalog).candidates := by
    decide +kernel
  obtain ⟨_, _, _, _, _, hoffered⟩ :=
    edit_keeps_what_it_does_not_replace accentedName "\u3000É\u2003\u2003(".toList
  obtain ⟨before, _, _, _, hstart, happly⟩ := hoffered _ 3 _ hmem
  rw [List.length_append] at happly
  exact ⟨hmem, before, hstart.symm, happly⟩

end PromptLine
