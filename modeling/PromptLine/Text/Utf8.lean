import PromptLine.Text.Basic

namespace PromptLine

namespace Utf8

abbrev Bytes := List UInt8

def encode (t : Text) : Bytes := t.flatMap String.utf8EncodeChar

def size (t : Text) : Nat := t.foldr (fun c n => c.utf8Size + n) 0

@[simp] theorem size_nil : size [] = 0 := rfl

@[simp] theorem size_cons (c : Char) (t : Text) : size (c :: t) = c.utf8Size + size t :=
  rfl

@[simp] theorem size_append (s t : Text) : size (s ++ t) = size s + size t := by
  induction s with
  | nil => simp
  | cons c s ih => rw [List.cons_append, size_cons, size_cons, ih, Nat.add_assoc]

def fitting : Nat → Text → Text
  | _, [] => []
  | budget, c :: t => if c.utf8Size ≤ budget then c :: fitting (budget - c.utf8Size) t else []

theorem size_fitting_le (budget : Nat) (t : Text) : size (fitting budget t) ≤ budget := by
  induction t generalizing budget with
  | nil => simp [fitting]
  | cons c t ih =>
      by_cases h : c.utf8Size ≤ budget
      · have := ih (budget - c.utf8Size)
        simp only [fitting, if_pos h, size_cons]
        omega
      · simp [fitting, h]

structure Pending where
  owed : Nat
  low : Nat
  high : Nat
  value : Nat
  deriving DecidableEq, Repr

inductive Lead where
  | whole (c : Char)
  | starts (p : Pending)
  | stray
  deriving DecidableEq, Repr

def lead (b : Nat) : Lead :=
  if b < 0x80 then .whole (Char.ofNat b)
  else if b < 0xc2 then .stray
  else if b < 0xe0 then .starts ⟨1, 0x80, 0xbf, b - 0xc0⟩
  else if b = 0xe0 then .starts ⟨2, 0xa0, 0xbf, 0⟩
  else if b = 0xed then .starts ⟨2, 0x80, 0x9f, 0xd⟩
  else if b < 0xf0 then .starts ⟨2, 0x80, 0xbf, b - 0xe0⟩
  else if b = 0xf0 then .starts ⟨3, 0x90, 0xbf, 0⟩
  else if b < 0xf4 then .starts ⟨3, 0x80, 0xbf, b - 0xf0⟩
  else if b = 0xf4 then .starts ⟨3, 0x80, 0x8f, 4⟩
  else .stray

/-- The characters in order, with `none` for each longest run of bytes that begins a character and
breaks off, and for each byte that begins none. -/
def scan : Option Pending → Bytes → List (Option Char)
  | none, [] => []
  | some _, [] => [none]
  | none, b :: rest =>
      match lead b.toNat with
      | .whole c => some c :: scan none rest
      | .starts p => scan (some p) rest
      | .stray => none :: scan none rest
  | some p, b :: rest =>
      if p.low ≤ b.toNat ∧ b.toNat ≤ p.high then
        let value := 64 * p.value + (b.toNat - 0x80)
        if p.owed ≤ 1 then some (Char.ofNat value) :: scan none rest
        else scan (some ⟨p.owed - 1, 0x80, 0xbf, value⟩) rest
      else
        match lead b.toNat with
        | .whole c => none :: some c :: scan none rest
        | .starts q => none :: scan (some q) rest
        | .stray => none :: none :: scan none rest

def decode? (bytes : Bytes) : Option Text := (scan none bytes).mapM id

def decodeLossy (bytes : Bytes) : Text :=
  (scan none bytes).map (·.getD (Char.ofNat 0xfffd))

end Utf8

end PromptLine
