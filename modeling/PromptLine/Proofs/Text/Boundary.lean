import PromptLine.Proofs.Text.Slice

namespace PromptLine.Utf8

def isTail (b : UInt8) : Bool := 0x80 ≤ b.toNat && b.toNat < 0xc0

def startsAt (bytes : Bytes) (i : Nat) : Bool :=
  match bytes[i]? with
  | some b => !isTail b
  | none => i == bytes.length

def isBoundary (bytes : Bytes) (i : Nat) : Bool := i == 0 || startsAt bytes i

def boundaryFrom? (bytes : Bytes) : Nat → Option Nat
  | 0 => if isBoundary bytes 0 then some 0 else none
  | i + 1 => if isBoundary bytes (i + 1) then some (i + 1) else boundaryFrom? bytes i

def cutBack? (budget : Nat) (t : Text) : Option Text :=
  if (encode t).length ≤ budget then some t
  else (boundaryFrom? (encode t) budget).bind fun stop => slice? t 0 stop

variable {bytes : Bytes} {t : Text} {c : Char} {i : Nat}

theorem boundaryFrom?_eq {j : Nat} (hj : isBoundary bytes j = true) (hji : j ≤ i)
    (hbetween : ∀ k, j < k → k ≤ i → isBoundary bytes k = false) :
    boundaryFrom? bytes i = some j := by
  induction i with
  | zero =>
    obtain rfl := Nat.le_zero.mp hji
    rw [boundaryFrom?, if_pos hj]
  | succ i ih =>
    rcases Nat.lt_or_eq_of_le hji with hlt | rfl
    · have hlast : isBoundary bytes (i + 1) = false := hbetween _ hlt (Nat.le_refl _)
      rw [boundaryFrom?, hlast]
      exact ih (Nat.le_of_lt_succ hlt) fun k hk hki => hbetween k hk (Nat.le_succ_of_le hki)
    · rw [boundaryFrom?, if_pos hj]

theorem length_encode (t : Text) : (encode t).length = size t := by
  induction t with
  | nil => rfl
  | cons c t ih =>
    rw [encode, List.flatMap_cons, List.length_append, String.length_utf8EncodeChar, ← encode, ih,
      size_cons]

theorem isTail_ofNat {n : Nat} (h : n < 256) :
    isTail (UInt8.ofNat n) = true ↔ 0x80 ≤ n ∧ n < 0xc0 := by
  have hbyte : (UInt8.ofNat n).toNat = n := UInt8.toNat_ofNat_of_lt h
  rw [isTail, hbyte, Bool.and_eq_true, decide_eq_true_eq, decide_eq_true_eq]

theorem utf8EncodeChar_eq_cons (c : Char) : ∃ b tail, String.utf8EncodeChar c = b :: tail ∧
    isTail b = false ∧ ∀ x ∈ tail, isTail x = true := by
  have hnone {n : Nat} (h : n < 256) (hn : n < 0x80 ∨ 0xc0 ≤ n) :
      isTail (UInt8.ofNat n) = false := by
    rw [← Bool.not_eq_true, isTail_ofNat h]
    omega
  have htail (n : Nat) : isTail (UInt8.ofNat (n % 64 + 128)) = true :=
    (isTail_ofNat (by omega)).mpr (by omega)
  have hlast (n : Nat) : ∀ x ∈ [UInt8.ofNat (n % 64 + 128)], isTail x = true :=
    List.forall_mem_singleton.mpr (htail n)
  have hvalid : c.val.toNat < 0xd800 ∨ 0xdfff < c.val.toNat ∧ c.val.toNat < 0x110000 := c.valid
  unfold String.utf8EncodeChar
  generalize c.val.toNat = n at hvalid
  dsimp only
  split
  · exact ⟨_, _, rfl, hnone (by omega) (by omega), List.forall_mem_nil _⟩
  split
  · exact ⟨_, _, rfl, hnone (by omega) (by omega), hlast _⟩
  split
  · exact ⟨_, _, rfl, hnone (by omega) (by omega), List.forall_mem_cons.mpr ⟨htail _, hlast _⟩⟩
  · exact ⟨_, _, rfl, hnone (by omega) (by omega),
      List.forall_mem_cons.mpr ⟨htail _, List.forall_mem_cons.mpr ⟨htail _, hlast _⟩⟩⟩

theorem startsAt_append (x y : Bytes) (i : Nat) :
    startsAt (x ++ y) (x.length + i) = startsAt y i := by
  rw [startsAt, startsAt, List.getElem?_append_right (Nat.le_add_right _ _), Nat.add_sub_cancel_left]
  cases y[i]? with
  | some b => rfl
  | none => exact Bool.eq_iff_iff.mpr (by simp)

theorem startsAt_encode_zero (t : Text) : startsAt (encode t) 0 = true := by
  cases t with
  | nil => rfl
  | cons c t =>
    obtain ⟨b, tail, hc, hb, _⟩ := utf8EncodeChar_eq_cons c
    rw [encode, List.flatMap_cons, hc]
    simp only [startsAt, List.cons_append, List.getElem?_cons_zero, hb, Bool.not_false]

theorem startsAt_inside (hpos : 0 < i) (hi : i < c.utf8Size) :
    startsAt (encode (c :: t)) i = false := by
  obtain ⟨b, tail, hc, _, htail⟩ := utf8EncodeChar_eq_cons c
  obtain ⟨k, rfl⟩ := Nat.exists_eq_succ_of_ne_zero (Nat.ne_of_gt hpos)
  have hk : k < tail.length := by
    rw [← String.length_utf8EncodeChar, hc, List.length_cons] at hi
    omega
  rw [encode, List.flatMap_cons, hc, startsAt, List.cons_append, Nat.succ_eq_add_one,
    List.getElem?_cons_succ, List.getElem?_append_left hk, List.getElem?_eq_getElem hk]
  simp only [htail _ (List.getElem_mem hk), Bool.not_true]

theorem startsAt_behind (c : Char) (t : Text) (i : Nat) :
    startsAt (encode (c :: t)) (c.utf8Size + i) = startsAt (encode t) i := by
  rw [encode, List.flatMap_cons, ← String.length_utf8EncodeChar, ← encode, startsAt_append]

theorem startsAt_encode_iff : startsAt (encode t) i = true ↔ ∃ a b, t = a ++ b ∧ size a = i := by
  induction t generalizing i with
  | nil =>
    simp only [encode, List.flatMap_nil, startsAt, List.getElem?_nil, List.length_nil, beq_iff_eq,
      List.nil_eq_append_iff]
    constructor
    · rintro rfl
      exact ⟨[], [], ⟨rfl, rfl⟩, rfl⟩
    · rintro ⟨_, _, ⟨rfl, rfl⟩, rfl⟩
      rfl
  | cons c t ih =>
    rcases Nat.eq_zero_or_pos i with rfl | hpos
    · exact iff_of_true (startsAt_encode_zero _) ⟨[], c :: t, rfl, rfl⟩
    rcases Nat.lt_or_ge i c.utf8Size with hlt | hge
    · rw [startsAt_inside hpos hlt]
      refine iff_of_false nofun ?_
      rintro ⟨a, b, ht, rfl⟩
      cases a with
      | nil => exact absurd hpos (Nat.lt_irrefl 0)
      | cons d a =>
        obtain ⟨rfl, _⟩ := List.cons.inj ht
        rw [size_cons] at hlt
        omega
    · obtain ⟨k, rfl⟩ := Nat.exists_eq_add_of_le hge
      rw [startsAt_behind, ih]
      constructor
      · rintro ⟨a, b, rfl, rfl⟩
        exact ⟨c :: a, b, rfl, rfl⟩
      · rintro ⟨a, b, ht, ha⟩
        cases a with
        | nil =>
          rw [size_nil] at ha
          omega
        | cons d a =>
          obtain ⟨rfl, rfl⟩ := List.cons.inj ht
          rw [size_cons] at ha
          exact ⟨a, b, rfl, Nat.add_left_cancel ha⟩

theorem isBoundary_encode_iff :
    isBoundary (encode t) i = true ↔ ∃ a b, t = a ++ b ∧ size a = i := by
  rw [isBoundary, Bool.or_eq_true, beq_iff_eq, or_iff_right_of_imp, startsAt_encode_iff]
  rintro rfl
  exact startsAt_encode_zero t

structure LongestWithin (budget : Nat) (t kept : Text) : Prop where
  beginning : kept <+: t
  within : (encode kept).length ≤ budget
  longest : ∀ a, a <+: t → (encode a).length ≤ budget → a <+: kept

namespace LongestWithin

variable {budget more : Nat} {kept keptMore : Text}

theorem eq_iff (h : LongestWithin budget t kept) : kept = t ↔ (encode t).length ≤ budget := by
  constructor
  · rintro rfl
    exact h.within
  · intro hfits
    exact h.beginning.eq_of_length_le (h.longest t (List.prefix_refl t) hfits).length_le

theorem budget_lt (h : LongestWithin budget t kept) {c : Char} {rest : Text}
    (ht : t = kept ++ c :: rest) : budget < size kept + c.utf8Size := by
  rw [← Nat.not_le]
  intro hfits
  have hlonger : kept ++ [c] <+: kept :=
    h.longest _ ⟨rest, by simp [ht]⟩ (by simpa [length_encode] using hfits)
  exact absurd hlonger.length_le (by simp)

theorem budget_le (h : LongestWithin budget t kept) (hlong : budget < (encode t).length) :
    budget ≤ (encode kept).length + 3 := by
  obtain ⟨rest, rfl⟩ := h.beginning
  cases rest with
  | nil =>
    rw [List.append_nil] at hlong
    exact absurd h.within (Nat.not_le.mpr hlong)
  | cons c rest =>
    have hnext := h.budget_lt rfl
    have hfour := c.utf8Size_le_four
    rw [length_encode]
    omega

theorem mono (h : LongestWithin budget t kept) (hmore : LongestWithin more t keptMore)
    (hle : budget ≤ more) : kept <+: keptMore :=
  hmore.longest kept h.beginning (Nat.le_trans h.within hle)

theorem isBoundary (h : LongestWithin budget t kept) :
    isBoundary (encode t) (size kept) = true := by
  obtain ⟨rest, hrest⟩ := h.beginning
  exact isBoundary_encode_iff.mpr ⟨kept, rest, hrest.symm, rfl⟩

theorem boundaryFrom?_eq (h : LongestWithin budget t kept) :
    boundaryFrom? (encode t) budget = some (size kept) := by
  refine Utf8.boundaryFrom?_eq h.isBoundary (length_encode kept ▸ h.within) fun k hk hbudget => ?_
  -- a boundary that the walk passes would end a longer beginning within the budget
  rw [← Bool.not_eq_true, isBoundary_encode_iff]
  rintro ⟨a, b, hab, rfl⟩
  have hshort : a <+: kept := h.longest a ⟨b, hab.symm⟩ (by rwa [length_encode])
  obtain ⟨rest, rfl⟩ := hshort
  rw [size_append] at hk
  omega

theorem cutBack?_eq (h : LongestWithin budget t kept) : cutBack? budget t = some kept := by
  rw [cutBack?]
  split
  · next hfits => rw [h.eq_iff.mpr hfits]
  · obtain ⟨rest, hrest⟩ := h.beginning
    rw [h.boundaryFrom?_eq, Option.bind_some, ← hrest]
    exact slice?_front kept rest

end LongestWithin

theorem fitting_beginning (budget : Nat) (t : Text) : fitting budget t <+: t := by
  induction t generalizing budget with
  | nil => exact List.prefix_refl _
  | cons c t ih =>
    rw [fitting]
    split
    · exact (List.prefix_cons_inj c).mpr (ih _)
    · exact List.nil_prefix

theorem beginning_fitting {a : Text} {budget : Nat} (ha : a <+: t) (hfits : size a ≤ budget) :
    a <+: fitting budget t := by
  induction a generalizing budget t with
  | nil => exact List.nil_prefix
  | cons c a ih =>
    cases t with
    | nil => cases List.prefix_nil.mp ha
    | cons d t =>
      obtain ⟨rfl, hat⟩ := List.cons_prefix_cons.mp ha
      rw [size_cons] at hfits
      rw [fitting, if_pos (by omega)]
      exact (List.prefix_cons_inj c).mpr (ih hat (by omega))

theorem longestWithin_fitting (budget : Nat) (t : Text) :
    LongestWithin budget t (fitting budget t) where
  beginning := fitting_beginning budget t
  within := by
    rw [length_encode]
    exact size_fitting_le budget t
  longest a ha hfits := beginning_fitting ha (by rwa [length_encode] at hfits)

end PromptLine.Utf8
