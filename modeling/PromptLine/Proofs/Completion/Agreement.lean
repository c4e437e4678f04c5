import PromptLine.Proofs.Command.Canonical
import PromptLine.Proofs.Completion.Candidate
import PromptLine.Proofs.Text.Split

namespace PromptLine

open Text (StartsOff EndsOff)

namespace Text

theorem before_dot {m n u v : Text} (h : m ++ '.' :: u = n ++ '.' :: v) (hv : '.' ∉ v) :
    m = n ∨ ∃ rest, n = m ++ '.' :: rest := by
  rcases List.append_eq_append_iff.mp h with ⟨rest, hn, hu⟩ | ⟨rest, hm, hn⟩
  · cases rest with
    | nil => exact .inl (by simpa using hn.symm)
    | cons c rest =>
      obtain ⟨rfl, _⟩ := List.cons.inj hu
      exact .inr ⟨rest, hn⟩
  · cases rest with
    | nil => exact .inl (by simpa using hm)
    | cons c rest =>
      obtain ⟨_, htail⟩ := List.cons.inj hn
      exact absurd (by simp [htail]) hv

end Text

structure Headed (text : Text) (p : Path) (lead gap after : Text) : Prop where
  eq : text = lead ++ p.render ++ gap ++ '(' :: after
  lead_blank : ∀ c ∈ lead, isBlank c = true
  gap_blank : ∀ c ∈ gap, isBlank c = true
  wellFormed : p.wellFormed = true

namespace Headed

variable {text lead gap after : Text} {p : Path}

theorem of_parse {cmd : Command} (h : Command.parse text = .ok cmd) :
    ∃ lead gap after, Headed text cmd.path lead gap after := by
  obtain ⟨_, _, _, gap, rest, hgap, _, heq⟩ := Command.parse_eq_ok_iff.mp h
  obtain ⟨lead, trail, htext, hlead, _, _, _⟩ := Text.trim_eq_iff.mp (rfl : Text.trim text = _)
  refine ⟨lead, gap, rest ++ trail, ?_, hlead, hgap, Command.wellFormed_of_parse h⟩
  rw [htext, heq]
  simp [Path.render, Command.path]

theorem framed (h : Headed text p lead gap after) :
    Framed (lead ++ p.render ++ gap) lead p.render gap := by
  have hstarts := Command.path_startsOff h.wellFormed []
  rw [List.append_nil] at hstarts
  refine ⟨rfl, h.lead_blank, h.gap_blank, hstarts, Command.path_endsOff h.wellFormed, ?_⟩
  simp [Path.render]

theorem no_paren (h : Headed text p lead gap after) : '(' ∉ lead ++ p.render ++ gap :=
  (h.framed.mem_iff (by decide)).not.mpr (Command.path_no_paren h.wellFormed)

theorem idxOf_paren (h : Headed text p lead gap after) :
    text.idxOf '(' = (lead ++ p.render ++ gap).length := by
  rw [h.eq, List.idxOf_append_of_notMem h.no_paren, List.idxOf_cons_self, Nat.add_zero]

theorem take_paren (h : Headed text p lead gap after) :
    text.take (text.idxOf '(') = lead ++ p.render ++ gap := by
  rw [h.idxOf_paren]
  conv_lhs => rw [h.eq]
  exact List.take_left

theorem no_dot (h : Headed text p lead gap after) : '.' ∉ p.provider ∧ '.' ∉ p.method ++ gap := by
  obtain ⟨⟨_, hp⟩, _, ⟨_, hf⟩⟩ := Command.path_wellFormed_iff.mp h.wellFormed
  refine ⟨fun hx => (hp _ hx).ne_mark.1 rfl, ?_⟩
  simp only [List.mem_append, not_or]
  exact ⟨fun hx => (hf _ hx).ne_mark.1 rfl, h.framed.not_mem_trail (by decide)⟩

theorem exists_rest {cursor : Nat} {lead' head trail : Text} (h : Headed text p lead gap after)
    (hcursor : cursor ≤ text.idxOf '(') (hframed : Framed (text.take cursor) lead' head trail)
    (hne : head ≠ []) :
    ∃ rest, head ++ rest = p.provider ++ '.' :: (p.model ++ '.' :: (p.method ++ gap)) := by
  have htake : (text.take (text.idxOf '(')).take cursor = text.take cursor := by
    rw [List.take_take, Nat.min_eq_left hcursor]
  have hwhole : text.take cursor ++ (text.take (text.idxOf '(')).drop cursor =
      lead ++ p.render ++ gap := by
    rw [← htake, List.take_append_drop, h.take_paren]
  have htrim := h.framed.trimStart_eq
  have htyped : Text.trimStart (lead ++ p.render ++ gap) =
      head ++ (trail ++ (text.take (text.idxOf '(')).drop cursor) := by
    refine Text.trimStart_eq_iff.mpr ⟨lead', ?_, hframed.lead_blank, ?_⟩
    · rw [← hwhole, hframed.eq]
      simp
    · exact Text.startsOff_append hframed.starts fun he => absurd he hne
  refine ⟨_, htyped.symm.trans (htrim.trans ?_)⟩
  simp [Path.render]

theorem resolve_at_paren (h : Headed text p lead gap after) :
    Context.resolve text (text.idxOf '(') =
      ⟨.method, p.method, ⟨lead.length + p.provider.length + p.model.length + 2, text.idxOf '('⟩,
        some p.provider, some p.model⟩ := by
  obtain ⟨hprovider, hmethod⟩ := h.no_dot
  have hlen := h.idxOf_paren
  rw [Context.resolve_eq_iff, h.take_paren, hlen]
  have hpath : p.render = p.provider ++ '.' :: (p.model ++ '.' :: p.method) := by
    simp [Path.render]
  have hframed : Framed (lead ++ p.render ++ gap) lead
      (p.provider ++ '.' :: (p.model ++ '.' :: p.method)) gap := by
    rw [← hpath]
    exact h.framed
  refine .method hframed h.no_paren hprovider ?_
  exact fun hx => hmethod (List.mem_append_left _ hx)

theorem resolve_before_paren {cursor : Nat} (h : Headed text p lead gap after)
    (hcursor : cursor ≤ text.idxOf '(') :
    (Context.resolve text cursor).stage ≠ .arguments ∧
      (∀ q, (Context.resolve text cursor).provider = some q → q = p.provider) ∧
      ((Context.resolve text cursor).stage = .method →
        ∃ m, (Context.resolve text cursor).model = some m ∧
          (m = p.model ∨ ∃ rest, p.model = m ++ '.' :: rest)) := by
  obtain ⟨hprovider, hmethod⟩ := h.no_dot
  have hparen : '(' ∉ text.take cursor := by
    intro hx
    refine h.no_paren ?_
    rw [← h.take_paren]
    exact (List.take_prefix_take_left hcursor).subset hx
  generalize hctx : Context.resolve text cursor = ctx
  cases Context.resolve_eq_iff.mp hctx with
  | arguments hopen => exact absurd hopen hparen
  | provider => exact ⟨by simp, by simp, by simp⟩
  | model hframed _ hq _ =>
    obtain ⟨rest, hrest⟩ := h.exists_rest hcursor hframed (by simp)
    rw [List.append_assoc, List.cons_append] at hrest
    obtain ⟨rfl, _⟩ := Text.first_cut_unique hrest hq hprovider
    exact ⟨by simp, by simp, by simp⟩
  | @method lead' q m s trail hframed _ hq _ =>
    obtain ⟨rest, hrest⟩ := h.exists_rest hcursor hframed (by simp)
    simp only [List.append_assoc, List.cons_append] at hrest
    obtain ⟨rfl, hmodel⟩ := Text.first_cut_unique hrest hq hprovider
    exact ⟨by simp, by simp, fun _ => ⟨m, rfl, Text.before_dot hmodel hmethod⟩⟩

theorem resolve_behind_paren {cursor : Nat} (h : Headed text p lead gap after)
    (hcursor : text.idxOf '(' < cursor) : (Context.resolve text cursor).stage = .arguments := by
  refine (Context.reads_resolve text cursor).stage_eq_iff.mpr ?_
  have hlen := h.idxOf_paren
  have htext : text = (lead ++ p.render ++ gap ++ ['(']) ++ after := by simp [h.eq]
  have hopen : (lead ++ p.render ++ gap ++ ['(']).length ≤ cursor := by
    rw [List.length_append, ← hlen]
    exact hcursor
  have hprefix : lead ++ p.render ++ gap ++ ['('] <+: text.take cursor :=
    List.prefix_take_iff.mpr ⟨⟨after, htext.symm⟩, hopen⟩
  exact hprefix.subset (by simp)

end Headed

theorem parsed_segments_are_resolved {text : Text} {cmd : Command}
    (h : Command.parse text = .ok cmd) (k : Completer) (cursor : Nat) :
    '(' ∈ text ∧
    (text.idxOf '(' < cursor → (Context.resolve text cursor).stage = .arguments ∧
      ∀ catalog, (k.complete text cursor catalog).candidates = []) ∧
    (cursor ≤ text.idxOf '(' → (Context.resolve text cursor).stage ≠ .arguments ∧
      (∀ p, (Context.resolve text cursor).provider = some p → p = cmd.provider) ∧
      ((Context.resolve text cursor).stage = .method →
        ∃ m, (Context.resolve text cursor).model = some m ∧
          (m = cmd.model ∨ ∃ rest, cmd.model = m ++ '.' :: rest))) ∧
    (cursor = text.idxOf '(' → ∃ range,
      Context.resolve text cursor =
        ⟨.method, cmd.method, range, some cmd.provider, some cmd.model⟩) := by
  obtain ⟨lead, gap, after, hhead⟩ := Headed.of_parse h
  refine ⟨?_, fun hc => ?_, fun hc => hhead.resolve_before_paren hc, ?_⟩
  · rw [hhead.eq]
    simp
  · have hstage := hhead.resolve_behind_paren hc
    exact ⟨hstage, fun catalog => Completer.candidates_arguments hstage⟩
  · rintro rfl
    exact ⟨_, hhead.resolve_at_paren⟩

theorem dotted_model_is_resolved :
    Command.parse "  G.a.b.f (\"x.(\")".toList =
        .ok ⟨"G".toList, "a.b".toList, "f".toList, "x.(".toList⟩ ∧
      (∃ m, (Context.resolve "  G.a.b.f (\"x.(\")".toList 7).model = some m ∧
        (m = "a.b".toList ∨ ∃ rest, "a.b".toList = m ++ '.' :: rest)) ∧
      (Context.resolve "  G.a.b.f (\"x.(\")".toList 11).stage = .arguments := by
  have h : Command.parse "  G.a.b.f (\"x.(\")".toList =
      .ok ⟨"G".toList, "a.b".toList, "f".toList, "x.(".toList⟩ := by decide
  have htyping := (parsed_segments_are_resolved h ⟨[]⟩ 7).2.2.1 (by decide)
  have hbehind := (parsed_segments_are_resolved h ⟨[]⟩ 11).2.1 (by decide)
  exact ⟨h, htyping.2.2 (by decide), hbehind.1⟩

end PromptLine
