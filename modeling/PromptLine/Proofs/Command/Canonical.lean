import PromptLine.Proofs.Command.Grammar

namespace PromptLine.Command

open Text (StartsOff EndsOff)

variable {c : Command}

theorem path_startsOff {p : Path} (h : p.wellFormed = true) (rest : Text) :
    StartsOff isBlank (p.render ++ rest) := by
  obtain ⟨⟨hne, hp⟩, _, _⟩ := path_wellFormed_iff.mp h
  rw [Path.render, List.append_assoc, List.append_assoc]
  exact Text.startsOff_append (Text.startsOff_of_all fun x hx => (hp x hx).not_blank)
    fun he => absurd he hne

theorem trim_render (h : c.path.wellFormed = true) : Text.trim c.render = c.render := by
  refine Text.trim_eq_iff.mpr ⟨[], [], by simp, by simp, by simp, ?_, ?_⟩
  · have hs := path_startsOff h (['(', '"'] ++ c.query ++ ['"', ')'])
    simpa [render] using hs
  · have he : c.render = c.path.render ++ ['(', '"'] ++ c.query ++ ['"'] ++ [')'] := by simp [render]
    rw [he]
    exact Text.endsOff_concat (by decide)

theorem spelled_render (h : c.path.wellFormed = true) : c.Spelled c.render := by
  obtain ⟨hp, hm, hf⟩ := path_wellFormed_iff.mp h
  refine ⟨hp, hm, hf, [], '"' :: (c.query ++ '"' :: [')']), by simp, ?_, ?_⟩
  · exact ⟨[], '"', [], .inl rfl, by simp, by simp, by simp⟩
  · simp [render, Path.render, path]

theorem wellFormed_of_parse {t : Text} (h : parse t = .ok c) : c.path.wellFormed = true := by
  obtain ⟨hp, hm, hf, _⟩ := parse_eq_ok_iff.mp h
  exact path_wellFormed_iff.mpr ⟨hp, hm, hf⟩

theorem parse_render_iff : parse c.render = .ok c ↔ c.path.wellFormed = true := by
  constructor
  · exact wellFormed_of_parse
  · intro h
    rw [parse_eq_ok_iff, trim_render h]
    exact spelled_render h

theorem wellFormed_iff : c.path.wellFormed = true ↔
    Text.isIdentifier c.provider = true ∧ Text.isModelIdentifier c.model = true ∧
      Text.isIdentifier c.method = true := by
  simp only [Path.wellFormed, path, Bool.and_eq_true, and_assoc]

theorem canonical_text_is_read_back :
    (∀ c : Command, parse c.render = .ok c ↔
      Text.isIdentifier c.provider = true ∧ Text.isModelIdentifier c.model = true ∧
        Text.isIdentifier c.method = true) ∧
    (∀ t c, parse t = .ok c →
      (Text.isIdentifier c.provider = true ∧ Text.isModelIdentifier c.model = true ∧
        Text.isIdentifier c.method = true) ∧ parse c.render = .ok c) ∧
    ∀ t u c d, parse t = .ok c → parse u = .ok d → c ≠ d → c.render ≠ d.render := by
  refine ⟨fun c => parse_render_iff.trans wellFormed_iff, fun t c h => ?_, ?_⟩
  · have hwell := wellFormed_of_parse h
    exact ⟨wellFormed_iff.mp hwell, parse_render_iff.mpr hwell⟩
  · intro t u c d hc hd hne hsame
    have hread : parse c.render = .ok c := parse_render_iff.mpr (wellFormed_of_parse hc)
    have hother : parse d.render = .ok d := parse_render_iff.mpr (wellFormed_of_parse hd)
    rw [hsame, hother] at hread
    exact hne (Except.ok.inj hread).symm

def quoting : Command := ⟨"G".toList, "a..b".toList, "f".toList, " x\") ' \" ".toList⟩

theorem quoting_is_read_back :
    parse " G.a..b.f (\t' x\") ' \" ' )".toList = .ok quoting ∧
      quoting.render = "G.a..b.f(\" x\") ' \" \")".toList ∧ parse quoting.render = .ok quoting := by
  have h : parse " G.a..b.f (\t' x\") ' \" ' )".toList = .ok quoting := by decide
  exact ⟨h, by decide, (canonical_text_is_read_back.2.1 _ _ h).2⟩

end PromptLine.Command
