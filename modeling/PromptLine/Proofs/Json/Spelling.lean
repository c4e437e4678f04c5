import PromptLine.Json.Spelling
import PromptLine.Proofs.Text.Decimal

namespace PromptLine.Json

inductive Piece.Means : Piece → Char → Prop where
  | char (c : Char) : Means (.char c) c
  | unit {c : Char} : c.toNat < 0x20 → Means (.unit c.toNat) c

theorem charOfCode?_toNat (c : Char) : charOfCode? c.toNat = some c := by
  have hvalid : c.toNat.isValidChar := c.valid
  rw [charOfCode?, if_pos hvalid, Char.ofNat_toNat]

theorem joined?_unit {c : Char} (h : c.toNat < 0x20) (rest : List Piece) :
    joined? (.unit c.toNat :: rest) = (joined? rest).map (c :: ·) := by
  have hlow : isHighSurrogate c.toNat = false := by
    have : ¬ 0xd800 ≤ c.toNat := by omega
    simp [isHighSurrogate, this]
  match rest with
  | [] => simp [joined?, charOfCode?_toNat]
  | .char d :: rest => simp [joined?, charOfCode?_toNat]
  | .unit n :: rest => simp [joined?, hlow, charOfCode?_toNat]

theorem joined?_cons {p : Piece} {c : Char} (h : p.Means c) (rest : List Piece) :
    joined? (p :: rest) = (joined? rest).map (c :: ·) := by
  cases h with
  | char => rfl
  | unit hlow => exact joined?_unit hlow rest

theorem value?_padded : ∀ n < 0x20, ∃ a b c d, Hex.padded 4 n = [a, b, c, d] ∧
    Hex.value? [a, b, c, d] = some n := by
  intro n hn
  refine ⟨_, _, _, _, rfl, ?_⟩
  revert n
  decide

theorem pieces?_plain {c : Char} (h : c ≠ '\\') (rest : Text) :
    pieces? (c :: rest) = (pieces? rest).map (.char c :: ·) := by
  rw [pieces?, if_neg h]
  · exact fun _ _ _ _ _ hc _ => h hc
  · exact fun _ _ hc _ => h hc

theorem pieces?_escaped {e c : Char} (he : escaped? e = some c) (hu : e ≠ 'u') (rest : Text) :
    pieces? ('\\' :: e :: rest) = (pieces? rest).map (.char c :: ·) := by
  rw [pieces?, he]
  exact fun _ _ _ _ _ h _ => hu h

theorem pieces?_spellChar (c : Char) (rest : Text) :
    ∃ p : Piece, p.Means c ∧ pieces? (spellChar c ++ rest) = (pieces? rest).map (p :: ·) := by
  rw [spellChar]
  split
  · next h => exact ⟨.char c, .char c, pieces?_escaped (by rw [h]; rfl) (by decide) rest⟩
  split
  · next h => exact ⟨.char c, .char c, pieces?_escaped (by rw [h]; rfl) (by decide) rest⟩
  split
  · next h => exact ⟨.char c, .char c, pieces?_escaped (by rw [h]; rfl) (by decide) rest⟩
  split
  · next h => exact ⟨.char c, .char c, pieces?_escaped (by rw [h]; rfl) (by decide) rest⟩
  split
  · next h => exact ⟨.char c, .char c, pieces?_escaped (by rw [h]; rfl) (by decide) rest⟩
  split
  · next h =>
    have hc : c = Char.ofNat 8 := by rw [← h, Char.ofNat_toNat]
    exact ⟨.char c, .char c, pieces?_escaped (by rw [hc]; rfl) (by decide) rest⟩
  split
  · next h =>
    have hc : c = Char.ofNat 12 := by rw [← h, Char.ofNat_toNat]
    exact ⟨.char c, .char c, pieces?_escaped (by rw [hc]; rfl) (by decide) rest⟩
  split
  · next h =>
    obtain ⟨x, y, z, w, hpadded, hvalue⟩ := value?_padded c.toNat h
    refine ⟨.unit c.toNat, .unit h, ?_⟩
    rw [hpadded]
    simp only [List.cons_append, List.nil_append, pieces?, hvalue]
  · next hquote hslash _ _ _ _ _ _ => exact ⟨.char c, .char c, pieces?_plain hslash rest⟩

theorem unspell?_spell (t : Text) : unspell? (spell t) = some t := by
  have h : ∃ ps, pieces? (spell t) = some ps ∧ joined? ps = some t := by
    induction t with
    | nil => exact ⟨[], rfl, rfl⟩
    | cons c t ih =>
      obtain ⟨ps, hps, hjoined⟩ := ih
      obtain ⟨p, hmeans, hp⟩ := pieces?_spellChar c (spell t)
      refine ⟨p :: ps, ?_, ?_⟩
      · rw [spell, List.flatMap_cons, ← spell, hp, hps]
        rfl
      · rw [joined?_cons hmeans, hjoined]
        rfl
  obtain ⟨ps, hps, hjoined⟩ := h
  rw [unspell?, hps]
  exact hjoined

theorem text?_ofText (t : Text) : text? (ofText t) = some t := unspell?_spell t

theorem nat?_eq_some_iff {bound n : Nat} {v : Json} :
    nat? bound v = some n ↔ ∃ t, v = .number t ∧ Decimal.Writes t n ∧ n < bound := by
  cases v with
  | number t =>
    simp only [nat?, number.injEq, exists_eq_left', ← Decimal.value?_eq_some_iff]
    cases Decimal.value? t with
    | none => simp
    | some m =>
      by_cases hm : m < bound
      · simp only [if_pos hm, Option.some.injEq]
        exact ⟨fun h => ⟨h, h ▸ hm⟩, fun h => h.1⟩
      · simp only [if_neg hm, Option.some.injEq, reduceCtorEq, false_iff]
        exact fun h => hm (h.1 ▸ h.2)
  | _ => simp [nat?]

end PromptLine.Json
