import PromptLine.Text.Utf8

namespace PromptLine.Utf8

variable {rest : Bytes}

theorem toNat_byte {n : Nat} (h : n < 256) : (UInt8.ofNat n).toNat = n :=
  UInt8.toNat_ofNat_of_lt h

theorem scan_whole {n : Nat} {c : Char} (hn : n < 256) (h : lead n = .whole c) :
    scan none (UInt8.ofNat n :: rest) = some c :: scan none rest := by
  simp only [scan, toNat_byte hn, h]

theorem scan_starts {n : Nat} {p : Pending} (hn : n < 256) (h : lead n = .starts p) :
    scan none (UInt8.ofNat n :: rest) = scan (some p) rest := by
  simp only [scan, toNat_byte hn, h]

theorem scan_more {owed low high value n : Nat} (hlow : low ≤ n % 64 + 128)
    (hhigh : n % 64 + 128 ≤ high) :
    scan (some ⟨owed + 2, low, high, value⟩) (UInt8.ofNat (n % 64 + 128) :: rest) =
      scan (some ⟨owed + 1, 0x80, 0xbf, 64 * value + n % 64⟩) rest := by
  have hbyte : (UInt8.ofNat (n % 64 + 128)).toNat = n % 64 + 128 := toNat_byte (by omega)
  simp only [scan, hbyte, if_pos (And.intro hlow hhigh), if_neg (by omega : ¬ owed + 2 ≤ 1),
    Nat.add_sub_cancel, Nat.add_succ_sub_one]

theorem scan_last {low high value n : Nat} (hlow : low ≤ n % 64 + 128)
    (hhigh : n % 64 + 128 ≤ high) :
    scan (some ⟨1, low, high, value⟩) (UInt8.ofNat (n % 64 + 128) :: rest) =
      some (Char.ofNat (64 * value + n % 64)) :: scan none rest := by
  have hbyte : (UInt8.ofNat (n % 64 + 128)).toNat = n % 64 + 128 := toNat_byte (by omega)
  simp only [scan, hbyte, if_pos (And.intro hlow hhigh), Nat.le_refl, if_true, Nat.add_sub_cancel]

theorem lead_two {n : Nat} (hlow : 0x80 ≤ n) (hhigh : n < 0x800) :
    lead (n / 64 % 32 + 192) = .starts ⟨1, 0x80, 0xbf, n / 64⟩ := by
  have hvalue : n / 64 % 32 + 192 - 0xc0 = n / 64 := by omega
  rw [lead, if_neg (by omega), if_neg (by omega), if_pos (by omega), hvalue]

theorem lead_three {n : Nat} (hlow : 0x800 ≤ n) (hhigh : n < 0x10000)
    (hvalid : n < 0xd800 ∨ 0xdfff < n) :
    ∃ low high, lead (n / 4096 % 16 + 224) = .starts ⟨2, low, high, n / 4096⟩ ∧
      low ≤ n / 64 % 64 + 128 ∧ n / 64 % 64 + 128 ≤ high := by
  by_cases hfirst : n / 4096 = 0
  · refine ⟨0xa0, 0xbf, ?_, by omega, by omega⟩
    rw [hfirst]
    rfl
  by_cases hsurrogate : n / 4096 = 0xd
  · refine ⟨0x80, 0x9f, ?_, by omega, by omega⟩
    rw [hsurrogate]
    rfl
  · refine ⟨0x80, 0xbf, ?_, by omega, by omega⟩
    have hvalue : n / 4096 % 16 + 224 - 0xe0 = n / 4096 := by omega
    rw [lead, if_neg (by omega), if_neg (by omega), if_neg (by omega), if_neg (by omega),
      if_neg (by omega), if_pos (by omega), hvalue]

theorem lead_four {n : Nat} (hlow : 0x10000 ≤ n) (hhigh : n < 0x110000) :
    ∃ low high, lead (n / 262144 % 8 + 240) = .starts ⟨3, low, high, n / 262144⟩ ∧
      low ≤ n / 4096 % 64 + 128 ∧ n / 4096 % 64 + 128 ≤ high := by
  by_cases hfirst : n / 262144 = 0
  · refine ⟨0x90, 0xbf, ?_, by omega, by omega⟩
    rw [hfirst]
    rfl
  by_cases hlast : n / 262144 = 4
  · refine ⟨0x80, 0x8f, ?_, by omega, by omega⟩
    rw [hlast]
    rfl
  · refine ⟨0x80, 0xbf, ?_, by omega, by omega⟩
    have hvalue : n / 262144 % 8 + 240 - 0xf0 = n / 262144 := by omega
    rw [lead, if_neg (by omega), if_neg (by omega), if_neg (by omega), if_neg (by omega),
      if_neg (by omega), if_neg (by omega), if_neg (by omega), if_pos (by omega), hvalue]

theorem scan_encodeChar (c : Char) (rest : Bytes) :
    scan none (String.utf8EncodeChar c ++ rest) = some c :: scan none rest := by
  have hchar : Char.ofNat c.val.toNat = c := Char.ofNat_toNat c
  have hvalid : c.val.toNat < 0xd800 ∨ 0xdfff < c.val.toNat ∧ c.val.toNat < 0x110000 := c.valid
  unfold String.utf8EncodeChar
  generalize c.val.toNat = n at hchar hvalid
  dsimp only
  split
  · have hlead : lead n = .whole c := by rw [lead, if_pos (by omega), hchar]
    exact scan_whole (by omega) hlead
  split
  · have hlead := lead_two (n := n) (by omega) (by omega)
    have hvalue : 64 * (n / 64) + n % 64 = n := by omega
    simp only [List.cons_append, List.nil_append]
    rw [scan_starts (by omega) hlead, scan_last (by omega) (by omega), hvalue, hchar]
  split
  · obtain ⟨low, high, hlead, hlow, hhigh⟩ := lead_three (n := n) (by omega) (by omega) (by omega)
    have hvalue : 64 * (64 * (n / 4096) + n / 64 % 64) + n % 64 = n := by omega
    simp only [List.cons_append, List.nil_append]
    rw [scan_starts (by omega) hlead, scan_more hlow hhigh, scan_last (by omega) (by omega), hvalue,
      hchar]
  · obtain ⟨low, high, hlead, hlow, hhigh⟩ := lead_four (n := n) (by omega) (by omega)
    have hvalue : 64 * (64 * (64 * (n / 262144) + n / 4096 % 64) + n / 64 % 64) + n % 64 = n := by
      omega
    simp only [List.cons_append, List.nil_append]
    rw [scan_starts (by omega) hlead, scan_more hlow hhigh, scan_more (by omega) (by omega),
      scan_last (by omega) (by omega), hvalue, hchar]

theorem scan_encode (t : Text) (rest : Bytes) :
    scan none (encode t ++ rest) = t.map some ++ scan none rest := by
  induction t with
  | nil => rfl
  | cons c t ih =>
    rw [encode, List.flatMap_cons, List.append_assoc, scan_encodeChar, ← encode, ih]
    rfl

theorem decode?_encode (t : Text) : decode? (encode t) = some t := by
  have h := scan_encode t []
  rw [List.append_nil] at h
  have hmap : t.mapM some = some (t.map id) := List.mapM_pure (m := Option) (f := id)
  rw [decode?, h, scan, List.append_nil, List.mapM_map]
  exact hmap.trans (congrArg some (List.map_id t))

end PromptLine.Utf8
