import PromptLine.Proofs.Command.Canonical
import PromptLine.Proofs.Text.Split

namespace PromptLine

open Text (StartsOff EndsOff)

structure Spacing where
  before : Text
  gap : Text
  opening : Text
  closing : Text
  after : Text
  blank : ∀ x ∈ before ++ gap ++ opening ++ closing ++ after, isBlank x = true

namespace Spacing

def empty : Spacing := ⟨[], [], [], [], [], by simp⟩

def inside (s : Spacing) : Text := s.opening ++ s.closing

variable {s : Spacing} {x : Char}

theorem blank_before (h : x ∈ s.before) : isBlank x = true := s.blank x (by simp [h])

theorem blank_gap (h : x ∈ s.gap) : isBlank x = true := s.blank x (by simp [h])

theorem blank_opening (h : x ∈ s.opening) : isBlank x = true := s.blank x (by simp [h])

theorem blank_closing (h : x ∈ s.closing) : isBlank x = true := s.blank x (by simp [h])

theorem blank_after (h : x ∈ s.after) : isBlank x = true := s.blank x (by simp [h])

end Spacing

namespace Command

variable {c d : Command} {s : Spacing} {quote : Char}

def argument (c : Command) (quote : Char) (s : Spacing) : Text :=
  s.opening ++ quote :: (c.query ++ quote :: (s.closing ++ [')']))

def spaced (c : Command) (quote : Char) (s : Spacing) : Text :=
  s.before ++ c.path.render ++ s.gap ++ '(' :: c.argument quote s ++ s.after

theorem trim_spaced (h : c.path.wellFormed = true) :
    Text.trim (c.spaced quote s) = c.path.render ++ s.gap ++ '(' :: c.argument quote s := by
  refine Text.trim_eq_iff.mpr ⟨s.before, s.after, by simp [spaced], fun _ => s.blank_before,
    fun _ => s.blank_after, ?_, ?_⟩
  · rw [List.append_assoc]
    exact path_startsOff h _
  · have hlast : c.path.render ++ s.gap ++ '(' :: c.argument quote s =
        c.path.render ++ s.gap ++ '(' :: (s.opening ++ quote :: (c.query ++ quote :: s.closing)) ++
          [')'] := by simp [argument]
    rw [hlast]
    exact Text.endsOff_concat (by decide)

theorem quoted_argument_iff {query : Text} (hquote : quote = '"' ∨ quote = '\'') :
    Quoted (c.argument quote s) query ↔
      (∀ x ∈ s.inside, isAsciiBlank x = true) ∧ query = c.query := by
  have hmark {q : Char} (hq : q = '"' ∨ q = '\'') : isBlank q = false := by
    rcases hq with rfl | rfl
    · decide
    · decide
  constructor
  · rintro ⟨before, quote', after, hquote', hbefore, hafter, heq⟩
    obtain ⟨hopening, rfl, hrest⟩ := Text.first_off_unique (p := isBlank) heq
      (fun _ => s.blank_opening) (fun x hx => isBlank_of_isAsciiBlank (hbefore x hx)) (hmark hquote)
      (hmark hquote')
    have hbody : c.query ++ quote :: s.closing = query ++ quote :: after :=
      (List.append_left_inj [')']).mp (by simpa using hrest)
    obtain ⟨hquery, _, hclosing⟩ := Text.last_off_unique (p := isBlank) hbody
      (fun _ => s.blank_closing) (fun x hx => isBlank_of_isAsciiBlank (hafter x hx)) (hmark hquote)
      (hmark hquote)
    refine ⟨fun x hx => ?_, hquery.symm⟩
    rw [Spacing.inside, List.mem_append, hopening, hclosing] at hx
    exact hx.elim (hbefore x) (hafter x)
  · rintro ⟨hascii, rfl⟩
    exact ⟨s.opening, quote, s.closing, hquote, fun x hx => hascii x (List.mem_append_left _ hx),
      fun x hx => hascii x (List.mem_append_right _ hx), rfl⟩

theorem spelled_spaced (h : c.path.wellFormed = true) (hquote : quote = '"' ∨ quote = '\'')
    (hascii : ∀ x ∈ s.inside, isAsciiBlank x = true) :
    c.Spelled (c.path.render ++ s.gap ++ '(' :: c.argument quote s) := by
  obtain ⟨hp, hm, hf⟩ := path_wellFormed_iff.mp h
  exact ⟨hp, hm, hf, s.gap, _, fun _ => s.blank_gap, (quoted_argument_iff hquote).mpr ⟨hascii, rfl⟩,
    by simp [Path.render, path]⟩

theorem Spelled.quoted {lead rest : Text} (h : d.Spelled (lead ++ '(' :: rest)) (hlead : '(' ∉ lead) :
    Quoted rest d.query := by
  obtain ⟨hp, hm, hf, gap, rest', hgap, hquoted, heq⟩ := h
  have hno : '(' ∉ d.path.render ++ gap := by
    rw [List.mem_append, not_or]
    exact ⟨path_no_paren (path_wellFormed_iff.mpr ⟨hp, hm, hf⟩),
      fun hx => absurd (hgap _ hx) (by decide)⟩
  have hcut : lead ++ '(' :: rest = d.path.render ++ gap ++ '(' :: rest' := by
    rw [heq]
    simp [Path.render, path]
  obtain ⟨_, rfl⟩ := Text.first_cut_unique hcut hlead hno
  exact hquoted

theorem not_spelled_spaced (h : c.path.wellFormed = true) (hquote : quote = '"' ∨ quote = '\'')
    (hwide : ∃ x ∈ s.inside, isAsciiBlank x = false) (d : Command) :
    ¬ d.Spelled (c.path.render ++ s.gap ++ '(' :: c.argument quote s) := by
  intro hspelled
  have hno : '(' ∉ c.path.render ++ s.gap := by
    rw [List.mem_append, not_or]
    exact ⟨path_no_paren h, fun hx => absurd (s.blank_gap hx) (by decide)⟩
  obtain ⟨hascii, _⟩ := (quoted_argument_iff hquote).mp (hspelled.quoted hno)
  obtain ⟨x, hx, hfalse⟩ := hwide
  rw [hascii x hx] at hfalse
  cases hfalse

theorem ascii_spacing_is_ignored {c : Command} {quote : Char}
    (hprovider : Text.isIdentifier c.provider = true)
    (hmodel : Text.isModelIdentifier c.model = true)
    (hmethod : Text.isIdentifier c.method = true) (hquote : quote = '"' ∨ quote = '\'')
    (s : Spacing) :
    parse (c.spaced quote .empty) = .ok c ∧
    ((∀ x ∈ s.inside, isAsciiBlank x = true) → parse (c.spaced quote s) = .ok c) ∧
    ((∃ x ∈ s.inside, isAsciiBlank x = false) →
      parse (c.spaced quote s) = .error (.malformedSyntax (c.spaced quote s))) := by
  have hwell : c.path.wellFormed = true := wellFormed_iff.mpr ⟨hprovider, hmodel, hmethod⟩
  have hread {s : Spacing} (hascii : ∀ x ∈ s.inside, isAsciiBlank x = true) :
      parse (c.spaced quote s) = .ok c := by
    rw [parse_eq_ok_iff, trim_spaced hwell]
    exact spelled_spaced hwell hquote hascii
  refine ⟨hread (by simp [Spacing.empty, Spacing.inside]), hread, fun hwide => ?_⟩
  refine parse_eq_error_iff.mpr ⟨rfl, fun d => ?_⟩
  rw [trim_spaced hwell]
  exact not_spelled_spaced hwell hquote hwide d

def wideOutside : Spacing :=
  ⟨"\u2028".toList, "\u3000 ".toList, "\t".toList, "\x0c".toList, "\u0085".toList,
    List.all_eq_true.mp (by decide)⟩

theorem wide_spacing_outside_is_ignored :
    parse "\u2028G.m.f\u3000 (\t'x'\x0c)\u0085".toList =
      .ok ⟨"G".toList, "m".toList, "f".toList, "x".toList⟩ :=
  (@ascii_spacing_is_ignored ⟨"G".toList, "m".toList, "f".toList, "x".toList⟩ '\'' (by decide)
    (by decide) (by decide) (.inr rfl) wideOutside).2.1 (List.all_eq_true.mp (by decide))

/-- A no-break space is a blank to the rest of the command, and none in front of the quote. -/
def wideInside : Spacing :=
  ⟨[], [], "\u00a0".toList, [], [], List.all_eq_true.mp (by decide)⟩

theorem wide_spacing_inside_is_refused :
    ¬ ∀ (c : Command) (quote : Char) (s : Spacing), Text.isIdentifier c.provider = true →
      Text.isModelIdentifier c.model = true → Text.isIdentifier c.method = true →
      (quote = '"' ∨ quote = '\'') → parse (c.spaced quote s) = .ok c := by
  intro h
  have hread := h ⟨"G".toList, "m".toList, "f".toList, "x".toList⟩ '"' wideInside (by decide)
    (by decide) (by decide) (.inl rfl)
  have hrefused : parse "G.m.f(\u00a0\"x\")".toList =
      .error (.malformedSyntax "G.m.f(\u00a0\"x\")".toList) := by decide
  exact absurd (hrefused.symm.trans hread) (by simp)

end Command

end PromptLine
