import PromptLine.Proofs.Text.Boundary
import PromptLine.Proofs.Text.Utf8

namespace PromptLine

section

variable {α : Type} {a : α} {l before behind : List α} {m n : Nat}

def FirstAt (a : α) (l : List α) (n : Nat) : Prop := l[n]? = some a ∧ ∀ m < n, l[m]? ≠ some a

def LastAt (a : α) (l : List α) (n : Nat) : Prop := l[n]? = some a ∧ ∀ m > n, l[m]? ≠ some a

theorem FirstAt.unique (h : FirstAt a l m) (h' : FirstAt a l n) : m = n :=
  Nat.le_antisymm (Nat.not_lt.mp fun hlt => h.2 n hlt h'.1)
    (Nat.not_lt.mp fun hlt => h'.2 m hlt h.1)

theorem LastAt.unique (h : LastAt a l m) (h' : LastAt a l n) : m = n :=
  Nat.le_antisymm (Nat.not_lt.mp fun hlt => h'.2 m hlt h.1)
    (Nat.not_lt.mp fun hlt => h.2 n hlt h'.1)

theorem FirstAt.mem (h : FirstAt a l n) : a ∈ l := List.mem_of_getElem? h.1

theorem LastAt.mem (h : LastAt a l n) : a ∈ l := List.mem_of_getElem? h.1

theorem firstAt_append (h : a ∉ before) : FirstAt a (before ++ a :: behind) before.length := by
  constructor
  · rw [List.getElem?_append_right (Nat.le_refl _), Nat.sub_self, List.getElem?_cons_zero]
  · intro m hm hat
    rw [List.getElem?_append_left hm] at hat
    exact h (List.mem_of_getElem? hat)

theorem lastAt_append (h : a ∉ behind) : LastAt a (before ++ a :: behind) before.length := by
  constructor
  · rw [List.getElem?_append_right (Nat.le_refl _), Nat.sub_self, List.getElem?_cons_zero]
  · intro m hm hat
    obtain ⟨k, rfl⟩ := Nat.exists_eq_add_of_lt hm
    rw [List.getElem?_append_right (by omega), Nat.add_assoc, Nat.add_sub_cancel_left,
      List.getElem?_cons_succ] at hat
    exact h (List.mem_of_getElem? hat)

end

namespace Utf8

variable {c : Char} {t a b : Text} {n : Nat}

theorem encode_append (a b : Text) : encode (a ++ b) = encode a ++ encode b :=
  List.flatMap_append

theorem utf8EncodeChar_of_ascii (hc : c.toNat < 0x80) : String.utf8EncodeChar c = [c.toUInt8] := by
  refine String.utf8EncodeChar_eq_singleton (Char.utf8Size_eq_one_iff.mpr ?_)
  rw [UInt32.le_iff_toNat_le]
  exact Nat.le_of_lt_succ hc

theorem le_of_mem_utf8EncodeChar (hc : 0x80 ≤ c.toNat) :
    ∀ x ∈ String.utf8EncodeChar c, 0x80 ≤ x.toNat := by
  have hbyte {n : Nat} (hlow : 0x80 ≤ n) (hn : n < 256) : 0x80 ≤ (UInt8.ofNat n).toNat := by
    rwa [toNat_byte hn]
  have htail (n : Nat) : 0x80 ≤ (UInt8.ofNat (n % 64 + 128)).toNat := hbyte (by omega) (by omega)
  have hwide : 0x80 ≤ c.val.toNat := hc
  unfold String.utf8EncodeChar
  generalize c.val.toNat = n at hwide
  simp only [if_neg (by omega : ¬ n ≤ 127)]
  -- however long the code is, its first byte has the value of a wide one
  repeat' split
  all_goals
    simp only [List.forall_mem_cons, List.not_mem_nil, false_implies, implies_true, and_true, htail]
    exact hbyte (by omega) (by omega)

theorem count_utf8EncodeChar (hc : c.toNat < 0x80) (d : Char) :
    (String.utf8EncodeChar d).count c.toUInt8 = if d = c then 1 else 0 := by
  have hbyte : c.toUInt8.toNat = c.toNat := Nat.mod_eq_of_lt (Nat.lt_trans hc (by decide))
  by_cases hd : d.toNat < 0x80
  · have hbyte' : d.toUInt8.toNat = d.toNat := Nat.mod_eq_of_lt (Nat.lt_trans hd (by decide))
    have hsame : d.toUInt8 = c.toUInt8 ↔ d = c := by
      rw [← UInt8.toNat_inj, hbyte, hbyte', Char.toNat_inj]
    rw [utf8EncodeChar_of_ascii hd, List.count_singleton]
    simp only [beq_iff_eq, hsame]
  · have hne : d ≠ c := by
      rintro rfl
      exact hd hc
    rw [if_neg hne, List.count_eq_zero]
    intro hmem
    have hwide := le_of_mem_utf8EncodeChar (Nat.not_lt.mp hd) _ hmem
    omega

theorem count_encode (hc : c.toNat < 0x80) (t : Text) :
    (encode t).count c.toUInt8 = t.count c := by
  induction t with
  | nil => rfl
  | cons d t ih =>
    rw [encode, List.flatMap_cons, ← encode, List.count_append, count_utf8EncodeChar hc, ih,
      List.count_cons, Nat.add_comm]
    simp only [beq_iff_eq]

theorem mem_encode_iff (hc : c.toNat < 0x80) : c.toUInt8 ∈ encode t ↔ c ∈ t := by
  rw [← List.count_pos_iff, count_encode hc, List.count_pos_iff]

theorem encode_append_cons (hc : c.toNat < 0x80) (a b : Text) :
    encode (a ++ c :: b) = encode a ++ c.toUInt8 :: encode b := by
  have hcons : encode (c :: b) = String.utf8EncodeChar c ++ encode b := List.flatMap_cons
  rw [encode_append, hcons, utf8EncodeChar_of_ascii hc, List.singleton_append]

theorem firstAt_encode (hc : c.toNat < 0x80) (ha : c ∉ a) (b : Text) :
    FirstAt c.toUInt8 (encode (a ++ c :: b)) (size a) := by
  rw [encode_append_cons hc, ← length_encode]
  exact firstAt_append (mt (mem_encode_iff hc).mp ha)

theorem lastAt_encode (hc : c.toNat < 0x80) (a : Text) (hb : c ∉ b) :
    LastAt c.toUInt8 (encode (a ++ c :: b)) (size a) := by
  rw [encode_append_cons hc, ← length_encode]
  exact lastAt_append (mt (mem_encode_iff hc).mp hb)

theorem firstAt_encode_iff (hc : c.toNat < 0x80) :
    (Text.cut? c t).map (fun cut => size cut.1) = some n ↔ FirstAt c.toUInt8 (encode t) n := by
  cases hcut : Text.cut? c t with
  | none =>
    have hno : c ∉ t := Text.cut?_eq_none_iff.mp hcut
    exact iff_of_false nofun fun h => hno ((mem_encode_iff hc).mp h.mem)
  | some cut =>
    obtain ⟨a, b⟩ := cut
    obtain ⟨rfl, ha⟩ := Text.cut?_eq_some_iff.mp hcut
    have hfirst := firstAt_encode hc ha b
    rw [Option.map_some, Option.some.injEq]
    exact ⟨fun h => h ▸ hfirst, hfirst.unique⟩

theorem lastAt_encode_iff (hc : c.toNat < 0x80) :
    (Text.cutLast? c t).map (fun cut => size cut.1) = some n ↔ LastAt c.toUInt8 (encode t) n := by
  cases hcut : Text.cutLast? c t with
  | none =>
    have hno : c ∉ t := Text.cutLast?_eq_none_iff.mp hcut
    exact iff_of_false nofun fun h => hno ((mem_encode_iff hc).mp h.mem)
  | some cut =>
    obtain ⟨a, b⟩ := cut
    obtain ⟨rfl, hb⟩ := Text.cutLast?_eq_some_iff.mp hcut
    have hlast := lastAt_encode hc a hb
    rw [Option.map_some, Option.some.injEq]
    exact ⟨fun h => h ▸ hlast, hlast.unique⟩

end Utf8

end PromptLine
