import Mathlib.Data.List.Basic
import PromptLine.Text.Blank

namespace PromptLine

/-- A form of text. `many` and `few` repeat a class of characters, the one as often as it can and
the other as seldom; `keep` asks for the text that its part has met. -/
inductive Pattern where
  | one (p : Char → Bool)
  | many (p : Char → Bool)
  | few (p : Char → Bool)
  | seq (a b : Pattern)
  | either (a b : Pattern)
  | keep (a : Pattern)
  | done

namespace Pattern

def rests (p : Char → Bool) : Text → List Text
  | [] => [[]]
  | c :: t => (c :: t) :: if p c then rests p t else []

def ways : Pattern → Text → List (List Text × Text)
  | .one _, [] => []
  | .one p, c :: t => if p c then [([], t)] else []
  | .many p, t => (rests p t).reverse.map fun rest => ([], rest)
  | .few p, t => (rests p t).map fun rest => ([], rest)
  | .seq a b, t => (a.ways t).flatMap fun (kept, rest) =>
      (b.ways rest).map fun (more, rest) => (kept ++ more, rest)
  | .either a b, t => a.ways t ++ b.ways t
  | .keep a, t => (a.ways t).map fun (kept, rest) => (t.take (t.length - rest.length) :: kept, rest)
  | .done, t => if t.isEmpty then [([], [])] else []

def kept? (p : Pattern) (t : Text) : Option (List Text) := (p.ways t).head?.map Prod.fst

variable {p : Char → Bool} {a b : Pattern} {t rest : Text} {kept : List Text}

theorem mem_rests : rest ∈ rests p t ↔ ∃ l, t = l ++ rest ∧ ∀ c ∈ l, p c = true := by
  induction t with
  | nil =>
    constructor
    · intro h
      exact ⟨[], by simpa [rests] using h, by simp⟩
    · rintro ⟨l, hl, _⟩
      obtain ⟨_, rfl⟩ := List.append_eq_nil_iff.mp hl.symm
      simp [rests]
  | cons c t ih =>
    rw [rests, List.mem_cons]
    constructor
    · rintro (rfl | h)
      · exact ⟨[], rfl, by simp⟩
      · by_cases hc : p c
        · rw [if_pos hc] at h
          obtain ⟨l, rfl, hl⟩ := ih.mp h
          exact ⟨c :: l, rfl, by simpa [hc] using hl⟩
        · simp [hc] at h
    · rintro ⟨l, hl, hall⟩
      cases l with
      | nil => exact .inl hl.symm
      | cons d l =>
        obtain ⟨rfl, rfl⟩ := List.cons.inj hl
        rw [if_pos (hall c (by simp))]
        exact .inr (ih.mpr ⟨l, rfl, fun x hx => hall x (by simp [hx])⟩)

@[simp] theorem mem_ways_one :
    (kept, rest) ∈ (one p).ways t ↔ kept = [] ∧ ∃ c, t = c :: rest ∧ p c = true := by
  cases t with
  | nil => simp [ways]
  | cons c t => by_cases hc : p c <;> grind [ways]

@[simp] theorem mem_ways_many :
    (kept, rest) ∈ (many p).ways t ↔ kept = [] ∧ ∃ l, t = l ++ rest ∧ ∀ c ∈ l, p c = true := by
  rw [← mem_rests]
  simp [ways, and_comm, eq_comm]

@[simp] theorem mem_ways_few :
    (kept, rest) ∈ (few p).ways t ↔ kept = [] ∧ ∃ l, t = l ++ rest ∧ ∀ c ∈ l, p c = true := by
  rw [← mem_rests]
  simp [ways, and_comm, eq_comm]

@[simp] theorem mem_ways_seq :
    (kept, rest) ∈ (seq a b).ways t ↔ ∃ k between l,
      (k, between) ∈ a.ways t ∧ (l, rest) ∈ b.ways between ∧ kept = k ++ l := by
  simp only [ways, List.mem_flatMap, List.mem_map, Prod.exists, Prod.mk.injEq]
  constructor
  · rintro ⟨k, between, ha, l, _, hb, rfl, rfl⟩
    exact ⟨k, between, l, ha, hb, rfl⟩
  · rintro ⟨k, between, l, ha, hb, rfl⟩
    exact ⟨k, between, ha, l, rest, hb, rfl, rfl⟩

@[simp] theorem mem_ways_either :
    (kept, rest) ∈ (either a b).ways t ↔ (kept, rest) ∈ a.ways t ∨ (kept, rest) ∈ b.ways t := by
  simp [ways]

@[simp] theorem mem_ways_keep :
    (kept, rest) ∈ (keep a).ways t ↔ ∃ k, (k, rest) ∈ a.ways t ∧
      kept = t.take (t.length - rest.length) :: k := by
  simp only [ways, List.mem_map, Prod.exists, Prod.mk.injEq]
  constructor
  · rintro ⟨k, _, ha, rfl, rfl⟩
    exact ⟨k, ha, rfl⟩
  · rintro ⟨k, ha, rfl⟩
    exact ⟨k, rest, ha, rfl, rfl⟩

@[simp] theorem mem_ways_done :
    (kept, rest) ∈ done.ways t ↔ kept = [] ∧ rest = [] ∧ t = [] := by
  cases t <;> simp [ways]

theorem kept?_eq_of_unique (h : (kept, rest) ∈ a.ways t)
    (hu : ∀ k r, (k, r) ∈ a.ways t → k = kept) : a.kept? t = some kept := by
  rw [kept?]
  cases hw : a.ways t with
  | nil => simp [hw] at h
  | cons w ws =>
    obtain ⟨k, r⟩ := w
    simp [hu k r (by simp [hw])]

theorem kept?_eq_none (h : ∀ k r, (k, r) ∉ a.ways t) : a.kept? t = none := by
  have hw : a.ways t = [] := List.eq_nil_iff_forall_not_mem.mpr fun w => h w.1 w.2
  rw [kept?, hw]
  rfl

end Pattern

end PromptLine
