import PromptLine.Command.Reader
import PromptLine.Proofs.Command.Pattern
import PromptLine.Proofs.Text.Ends

namespace PromptLine

open Text (StartsOff EndsOff)

def IsWord (c : Char) : Prop :=
  ('A' ≤ c ∧ c ≤ 'Z') ∨ ('a' ≤ c ∧ c ≤ 'z') ∨ ('0' ≤ c ∧ c ≤ '9') ∨ c = '_'

theorem char_span_iff {c low high : Char} :
    (decide (c.val ≥ low.val) && decide (c.val ≤ high.val)) = true ↔ low ≤ c ∧ c ≤ high := by
  rw [Bool.and_eq_true, decide_eq_true_eq, decide_eq_true_eq]
  exact Iff.rfl

theorem isWordChar_iff {c : Char} : isWordChar c = true ↔ IsWord c := by
  have hupper : c.isUpper = true ↔ 'A' ≤ c ∧ c ≤ 'Z' := decide_eq_true_iff
  have hlower : c.isLower = true ↔ 'a' ≤ c ∧ c ≤ 'z' := char_span_iff
  have hdigit : c.isDigit = true ↔ '0' ≤ c ∧ c ≤ '9' := char_span_iff
  have halnum : c.isAlphanum = ((c.isUpper || c.isLower) || c.isDigit) := rfl
  simp only [isWordChar, IsWord, halnum, Bool.or_eq_true, hupper, hlower, hdigit, beq_iff_eq,
    or_assoc]

theorem isModelChar_iff {c : Char} : isModelChar c = true ↔ IsWord c ∨ c = '.' ∨ c = '-' := by
  simp [isModelChar, isWordChar_iff, or_assoc]

theorem IsWord.toNat_bounds {c : Char} (h : IsWord c) : 48 ≤ c.toNat ∧ c.toNat ≤ 122 := by
  simp only [IsWord, Char.le_def, UInt32.le_iff_toNat_le] at h
  rcases h with ⟨h₁, h₂⟩ | ⟨h₁, h₂⟩ | ⟨h₁, h₂⟩ | rfl
  · exact ⟨Nat.le_trans (by decide) h₁, Nat.le_trans h₂ (by decide)⟩
  · exact ⟨Nat.le_trans (by decide) h₁, Nat.le_trans h₂ (by decide)⟩
  · exact ⟨Nat.le_trans (by decide) h₁, Nat.le_trans h₂ (by decide)⟩
  · decide

theorem IsWord.not_blank {c : Char} (h : IsWord c) : isBlank c = false := by
  obtain ⟨hlow, hhigh⟩ := h.toNat_bounds
  rw [Bool.eq_false_iff]
  intro hb
  simp only [isBlank, Bool.or_eq_true, Bool.and_eq_true, decide_eq_true_eq, beq_iff_eq] at hb
  omega

theorem IsWord.ne_mark {c : Char} (h : IsWord c) : c ≠ '.' ∧ c ≠ '(' := by
  have hlow := h.toNat_bounds.1
  constructor
  · rintro rfl
    exact absurd hlow (by decide)
  · rintro rfl
    exact absurd hlow (by decide)

namespace Text

theorem isIdentifier_iff {t : Text} : isIdentifier t = true ↔ t ≠ [] ∧ ∀ c ∈ t, IsWord c := by
  simp [isIdentifier, isWordChar_iff]

theorem isModelIdentifier_iff {t : Text} :
    isModelIdentifier t = true ↔ t ≠ [] ∧ ∀ c ∈ t, IsWord c ∨ c = '.' ∨ c = '-' := by
  simp [isModelIdentifier, isModelChar_iff]

theorem dropLast?_eq_some_iff {c : Char} {t u : Text} :
    dropLast? c t = some u ↔ t = u ++ [c] := by
  constructor
  · intro h
    by_cases hl : t.getLast? = some c
    · rw [dropLast?, if_pos hl] at h
      obtain ⟨v, rfl⟩ := List.getLast?_eq_some_iff.mp hl
      simpa using h
    · simp [dropLast?, hl] at h
  · rintro rfl
    simp [dropLast?]

end Text

namespace Command

def Quoted (t query : Text) : Prop :=
  ∃ before quote after, (quote = '"' ∨ quote = '\'') ∧
    (∀ c ∈ before, isAsciiBlank c = true) ∧ (∀ c ∈ after, isAsciiBlank c = true) ∧
    t = before ++ quote :: (query ++ quote :: (after ++ [')']))

theorem quote_not_blank {c : Char} (h : c = '"' ∨ c = '\'') : isAsciiBlank c = false := by
  rcases h with rfl | rfl <;> decide

theorem argument?_eq_some_iff {t query : Text} :
    argument? t = some query ↔ Quoted t query := by
  constructor
  · intro h
    obtain ⟨before, ht, hb, _⟩ := Text.dropWhile_split isAsciiBlank t
    rw [argument?] at h
    cases hd : t.dropWhile isAsciiBlank with
    | nil => simp [hd] at h
    | cons quote body =>
      simp only [hd] at h
      by_cases hq : quote = '"' ∨ quote = '\''
      · rw [if_pos hq] at h
        obtain ⟨inner, hclose, hlast⟩ := Option.bind_eq_some_iff.mp h
        obtain ⟨after, hinner, ha, _⟩ := Text.dropEndWhile_split isAsciiBlank inner
        rw [Text.dropLast?_eq_some_iff] at hclose hlast
        rw [hlast] at hinner
        refine ⟨before, quote, after, hq, hb, ha, ?_⟩
        rw [hd, hclose, hinner] at ht
        simpa using ht
      · simp [hq] at h
  · rintro ⟨before, quote, after, hq, hb, ha, rfl⟩
    have hstart : (before ++ quote :: (query ++ quote :: (after ++ [')']))).dropWhile isAsciiBlank =
        quote :: (query ++ quote :: (after ++ [')'])) :=
      Text.dropWhile_eq_iff.mpr ⟨before, rfl, hb, by simpa [StartsOff] using quote_not_blank hq⟩
    have hend : Text.dropEndWhile isAsciiBlank (query ++ [quote] ++ after) = query ++ [quote] :=
      Text.dropEndWhile_eq_iff.mpr ⟨after, rfl, ha, by simpa [EndsOff] using quote_not_blank hq⟩
    have hclose : Text.dropLast? ')' (query ++ quote :: (after ++ [')'])) =
        some (query ++ [quote] ++ after) :=
      Text.dropLast?_eq_some_iff.mpr (by simp)
    rw [argument?, hstart]
    simp only [if_pos hq, hclose, Option.bind_some, hend]
    exact Text.dropLast?_eq_some_iff.mpr rfl

theorem Quoted.unique {t query other : Text} (h : Quoted t query) (h' : Quoted t other) :
    query = other := by
  rw [← argument?_eq_some_iff] at h h'
  exact Option.some.inj (h.symm.trans h')

def quotedPattern (quote : Char) : Pattern :=
  .seq (.one (· == quote)) (.seq (.keep (.few fun _ => true)) (.one (· == quote)))

def argumentPattern : Pattern :=
  .seq (.one (· == '(')) (.seq (.many isAsciiBlank)
    (.seq (.either (quotedPattern '"') (quotedPattern '\''))
      (.seq (.many isAsciiBlank) (.seq (.one (· == ')')) .done))))

theorem mem_ways_quotedPattern {quote : Char} {t rest : Text} {kept : List Text} :
    (kept, rest) ∈ (quotedPattern quote).ways t ↔
      ∃ query, kept = [query] ∧ t = quote :: (query ++ quote :: rest) := by
  simp only [quotedPattern, Pattern.mem_ways_seq, Pattern.mem_ways_one, Pattern.mem_ways_keep,
    Pattern.mem_ways_few, beq_iff_eq]
  constructor
  · rintro ⟨_, _, _, ⟨rfl, _, rfl, rfl⟩,
      ⟨_, _, _, ⟨_, ⟨rfl, query, rfl, _⟩, rfl⟩, ⟨rfl, _, rfl, rfl⟩, rfl⟩, rfl⟩
    exact ⟨query, by simp, rfl⟩
  · rintro ⟨query, rfl, rfl⟩
    refine ⟨[], _, [query], ⟨rfl, quote, rfl, rfl⟩, ?_, rfl⟩
    exact ⟨[query], quote :: rest, [], ⟨[], ⟨rfl, query, rfl, by simp⟩, by simp⟩,
      ⟨rfl, quote, rfl, rfl⟩, rfl⟩

theorem mem_ways_argumentPattern {t rest : Text} {kept : List Text} :
    (kept, rest) ∈ argumentPattern.ways ('(' :: t) ↔
      rest = [] ∧ ∃ query, kept = [query] ∧ Quoted t query := by
  simp only [argumentPattern, Pattern.mem_ways_seq, Pattern.mem_ways_one, Pattern.mem_ways_many,
    Pattern.mem_ways_either, Pattern.mem_ways_done, mem_ways_quotedPattern, beq_iff_eq]
  constructor
  · rintro ⟨_, _, _, ⟨rfl, _, hopen, rfl⟩, ⟨_, _, _, ⟨rfl, before, rfl, hb⟩,
      ⟨_, _, _, hquoted, ⟨_, _, _, ⟨rfl, after, rfl, ha⟩, ⟨_, _, _, ⟨rfl, _, rfl, rfl⟩,
        ⟨rfl, rfl, rfl⟩, rfl⟩, rfl⟩, rfl⟩, rfl⟩, rfl⟩
    obtain ⟨_, rfl⟩ := List.cons.inj hopen
    rcases hquoted with ⟨query, rfl, rfl⟩ | ⟨query, rfl, rfl⟩
    · exact ⟨rfl, query, rfl, before, '"', after, .inl rfl, hb, ha, rfl⟩
    · exact ⟨rfl, query, rfl, before, '\'', after, .inr rfl, hb, ha, rfl⟩
  · rintro ⟨rfl, query, rfl, before, quote, after, hq, hb, ha, rfl⟩
    refine ⟨[], _, [query], ⟨rfl, '(', rfl, rfl⟩, ?_, rfl⟩
    refine ⟨[], _, [query], ⟨rfl, before, rfl, hb⟩, ?_, rfl⟩
    refine ⟨[query], after ++ [')'], [], ?_, ?_, rfl⟩
    · rcases hq with rfl | rfl
      · exact .inl ⟨query, rfl, rfl⟩
      · exact .inr ⟨query, rfl, rfl⟩
    · exact ⟨[], [')'], [], ⟨rfl, after, rfl, ha⟩,
        ⟨[], [], [], ⟨rfl, ')', rfl, rfl⟩, ⟨rfl, rfl, rfl⟩, rfl⟩, rfl⟩

theorem argument?_eq_kept (t : Text) :
    argument? t = (argumentPattern.kept? ('(' :: t)).bind List.head? := by
  cases h : argument? t with
  | some query =>
    have hq := argument?_eq_some_iff.mp h
    have hkept : argumentPattern.kept? ('(' :: t) = some [query] := by
      apply Pattern.kept?_eq_of_unique (mem_ways_argumentPattern.mpr ⟨rfl, query, rfl, hq⟩)
      intro k r hk
      obtain ⟨_, other, rfl, ho⟩ := mem_ways_argumentPattern.mp hk
      rw [hq.unique ho]
    simp [hkept]
  | none =>
    have hkept : argumentPattern.kept? ('(' :: t) = none := by
      apply Pattern.kept?_eq_none
      intro k r hk
      obtain ⟨_, other, _, ho⟩ := mem_ways_argumentPattern.mp hk
      rw [argument?_eq_some_iff.mpr ho] at h
      cases h
    simp [hkept]

def Spelled (c : Command) (t : Text) : Prop :=
  (c.provider ≠ [] ∧ ∀ x ∈ c.provider, IsWord x) ∧
  (c.model ≠ [] ∧ ∀ x ∈ c.model, IsWord x ∨ x = '.' ∨ x = '-') ∧
  (c.method ≠ [] ∧ ∀ x ∈ c.method, IsWord x) ∧
  ∃ gap rest, (∀ x ∈ gap, isBlank x = true) ∧ Quoted rest c.query ∧
    t = c.provider ++ '.' :: c.model ++ '.' :: c.method ++ gap ++ '(' :: rest

theorem path_wellFormed_iff {p : Path} :
    p.wellFormed = true ↔ (p.provider ≠ [] ∧ ∀ x ∈ p.provider, IsWord x) ∧
      (p.model ≠ [] ∧ ∀ x ∈ p.model, IsWord x ∨ x = '.' ∨ x = '-') ∧
      (p.method ≠ [] ∧ ∀ x ∈ p.method, IsWord x) := by
  simp only [Path.wellFormed, Bool.and_eq_true, Text.isIdentifier_iff, Text.isModelIdentifier_iff,
    and_assoc]

theorem path_no_paren {p : Path} (h : p.wellFormed = true) : '(' ∉ p.render := by
  obtain ⟨⟨_, hp⟩, ⟨_, hm⟩, ⟨_, hf⟩⟩ := path_wellFormed_iff.mp h
  simp only [Path.render, List.mem_append, List.mem_cons, not_or]
  refine ⟨⟨fun hx => (hp _ hx).ne_mark.2 rfl, by decide, fun hx => ?_⟩, by decide,
    fun hx => (hf _ hx).ne_mark.2 rfl⟩
  rcases hm _ hx with hw | he | he
  · exact hw.ne_mark.2 rfl
  · exact absurd he (by decide)
  · exact absurd he (by decide)

theorem path_endsOff {p : Path} (h : p.wellFormed = true) : EndsOff isBlank p.render := by
  obtain ⟨_, _, ⟨hne, hf⟩⟩ := path_wellFormed_iff.mp h
  rw [Path.render, List.append_cons]
  exact Text.endsOff_append (Text.endsOff_of_all fun x hx => (hf x hx).not_blank)
    fun he => absurd he hne

theorem read?_eq_some_iff {t : Text} {c : Command} : read? t = some c ↔ c.Spelled t := by
  constructor
  · intro h
    rw [read?] at h
    cases hcut : Text.cut? '(' t with
    | none => simp [hcut] at h
    | some cut =>
      obtain ⟨head, rest⟩ := cut
      obtain ⟨rfl, _⟩ := Text.cut?_eq_some_iff.mp hcut
      simp only [hcut] at h
      obtain ⟨p, hpath, hrest⟩ := Option.bind_eq_some_iff.mp h
      by_cases hwell : p.wellFormed
      · rw [if_pos hwell] at hrest
        obtain ⟨query, hquery, rfl⟩ := Option.map_eq_some_iff.mp hrest
        obtain ⟨_, htrim, _, _⟩ := Path.ofText?_eq_some_iff.mp hpath
        obtain ⟨gap, rfl, hgap, _⟩ := Text.trimEnd_eq_iff.mp htrim
        obtain ⟨hp, hm, hf⟩ := path_wellFormed_iff.mp hwell
        exact ⟨hp, hm, hf, gap, rest, hgap, argument?_eq_some_iff.mp hquery,
          by simp [Path.render]⟩
      · simp [hwell] at hrest
  · rintro ⟨hp, hm, hf, gap, rest, hgap, hquery, rfl⟩
    have hwell : c.path.wellFormed = true := path_wellFormed_iff.mpr ⟨hp, hm, hf⟩
    have hparen := path_no_paren hwell
    have hcut : Text.cut? '(' (c.provider ++ '.' :: c.model ++ '.' :: c.method ++ gap ++ '(' :: rest) =
        some (c.path.render ++ gap, rest) := by
      refine Text.cut?_eq_some_iff.mpr ⟨by simp [Path.render, path], ?_⟩
      rw [List.mem_append, not_or]
      refine ⟨hparen, fun hx => ?_⟩
      exact absurd (hgap _ hx) (by decide)
    have htrim : Text.trimEnd (c.path.render ++ gap) = c.path.render :=
      Text.trimEnd_eq_iff.mpr ⟨gap, rfl, hgap, path_endsOff hwell⟩
    have hpath : Path.ofText? c.path.render = some c.path :=
      Path.ofText?_eq_some_iff.mpr ⟨hparen, rfl, fun hx => (hp.2 _ hx).ne_mark.1 rfl,
        fun hx => (hf.2 _ hx).ne_mark.1 rfl⟩
    rw [read?, hcut]
    simp only [htrim, hpath, Option.bind_some, if_pos hwell, argument?_eq_some_iff.mpr hquery]
    rfl

theorem parse_eq_ok_iff {input : Text} {c : Command} :
    parse input = .ok c ↔ c.Spelled (Text.trim input) := by
  rw [← read?_eq_some_iff, parse]
  cases read? (Text.trim input) <;> simp

theorem parse_eq_error_iff {input : Text} {e : ParseError} :
    parse input = .error e ↔
      e = .malformedSyntax input ∧ ∀ c : Command, ¬ c.Spelled (Text.trim input) := by
  simp only [← read?_eq_some_iff, parse]
  cases read? (Text.trim input) <;> simp [eq_comm]

theorem Spelled.unique {t : Text} {c d : Command} (hc : c.Spelled t) (hd : d.Spelled t) : c = d := by
  rw [← read?_eq_some_iff] at hc hd
  exact Option.some.inj (hc.symm.trans hd)

theorem parse_accepts_exactly_spelled (input : Text) :
    Text.TrimsTo input (Text.trim input) ∧
    (∀ c, parse input = .ok c ↔ c.Spelled (Text.trim input)) ∧
    (∀ c d : Command, c.Spelled (Text.trim input) → d.Spelled (Text.trim input) → c = d) ∧
    ((∀ c : Command, ¬ c.Spelled (Text.trim input)) →
      parse input = .error (.malformedSyntax input)) ∧
    ∀ rest, argument? rest = (argumentPattern.kept? ('(' :: rest)).bind List.head? := by
  refine ⟨Text.trim_eq_iff.mp rfl, fun c => parse_eq_ok_iff, fun c d hc hd => hc.unique hd, ?_,
    argument?_eq_kept⟩
  intro hnone
  exact parse_eq_error_iff.mpr ⟨rfl, hnone⟩

example : parse " G.a.b (\t\"x\")y\" ) ".toList =
    .ok ⟨"G".toList, "a".toList, "b".toList, "x\")y".toList⟩ := by decide

end Command

end PromptLine
