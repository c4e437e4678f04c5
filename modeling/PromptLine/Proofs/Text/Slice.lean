import PromptLine.Text.Utf8

namespace PromptLine.Utf8

def splitAt? : Nat → Text → Option (Text × Text)
  | 0, t => some ([], t)
  | _ + 1, [] => none
  | n + 1, c :: t =>
      if c.utf8Size ≤ n + 1 then
        (splitAt? (n + 1 - c.utf8Size) t).map fun cut => (c :: cut.1, cut.2)
      else none

def slice? (t : Text) (start stop : Nat) : Option Text :=
  (splitAt? stop t).bind fun cut => (splitAt? start cut.1).map Prod.snd

def charStarts : Nat → Text → List Nat
  | _, [] => []
  | start, c :: t => start :: charStarts (start + c.utf8Size) t

def byteOffset (t : Text) (n : Nat) : Nat := (charStarts 0 t)[n]?.getD (size t)

variable {t a b : Text} {n : Nat}

theorem splitAt?_append (a b : Text) : splitAt? (size a) (a ++ b) = some (a, b) := by
  induction a with
  | nil => rw [size_nil, splitAt?, List.nil_append]
  | cons c a ih =>
    obtain ⟨n, hn⟩ := Nat.exists_eq_succ_of_ne_zero (Nat.ne_of_gt c.utf8Size_pos)
    have hsize : n.succ + size a = (n + size a) + 1 := by omega
    have hrest : n + size a + 1 - c.utf8Size = size a := by omega
    rw [size_cons, hn, hsize, List.cons_append, splitAt?, if_pos (by omega), hrest, ih,
      Option.map_some]

theorem of_splitAt?_eq_some (h : splitAt? n t = some (a, b)) : t = a ++ b ∧ size a = n := by
  fun_induction splitAt? n t generalizing a b with
  | case1 t =>
    obtain ⟨rfl, rfl⟩ := Prod.mk.inj (Option.some.inj h)
    exact ⟨rfl, rfl⟩
  | case2 => cases h
  | case3 n c t hc ih =>
    obtain ⟨⟨x, y⟩, hcut, heq⟩ := Option.map_eq_some_iff.mp h
    obtain ⟨ht, hx⟩ := ih hcut
    simp only [Prod.mk.injEq] at heq
    obtain ⟨rfl, rfl⟩ := heq
    refine ⟨by rw [ht, List.cons_append], ?_⟩
    rw [size_cons, hx]
    omega
  | case4 => cases h

theorem slice?_eq_some_iff {start stop : Nat} {part : Text} : slice? t start stop = some part ↔
    ∃ a b, t = a ++ part ++ b ∧ size a = start ∧ size (a ++ part) = stop := by
  constructor
  · intro h
    obtain ⟨⟨upto, b⟩, hstop, hpart⟩ := Option.bind_eq_some_iff.mp h
    obtain ⟨⟨a, _⟩, hstart, rfl⟩ := Option.map_eq_some_iff.mp hpart
    obtain ⟨rfl, hsize⟩ := of_splitAt?_eq_some hstop
    obtain ⟨rfl, ha⟩ := of_splitAt?_eq_some hstart
    exact ⟨a, b, rfl, ha, hsize⟩
  · rintro ⟨a, b, rfl, rfl, rfl⟩
    rw [slice?, splitAt?_append, Option.bind_some, splitAt?_append, Option.map_some]

theorem slice?_front (front back : Text) : slice? (front ++ back) 0 (size front) = some front :=
  slice?_eq_some_iff.mpr ⟨[], back, rfl, rfl, rfl⟩

theorem slice?_back (front back : Text) :
    slice? (front ++ back) (size front) (size (front ++ back)) = some back :=
  slice?_eq_some_iff.mpr ⟨front, [], (List.append_nil _).symm, rfl, rfl⟩

theorem size_concat_dot (t : Text) : size (t ++ ['.']) = size t + 1 := by
  rw [size_append]
  rfl

theorem size_lt_append_cons (a : Text) (c : Char) (b : Text) : size a < size (a ++ c :: b) := by
  have hpos := c.utf8Size_pos
  rw [size_append, size_cons]
  omega

theorem charStarts_getElem?_length (start : Nat) (a b : Text) :
    (charStarts start (a ++ b))[a.length]?.getD (start + size (a ++ b)) = start + size a := by
  induction a generalizing start with
  | nil =>
    cases b with
    | nil => rfl
    | cons c b => rfl
  | cons c a ih =>
    rw [List.cons_append, charStarts, List.length_cons, List.getElem?_cons_succ, size_cons, size_cons,
      ← Nat.add_assoc, ← Nat.add_assoc, ih]

theorem byteOffset_append (a b : Text) : byteOffset (a ++ b) a.length = size a := by
  have h := charStarts_getElem?_length 0 a b
  rwa [Nat.zero_add, Nat.zero_add] at h

example : slice? "aé.b".toList 1 3 = some "é".toList ∧ slice? "aé.b".toList 2 3 = none := by decide

end PromptLine.Utf8
