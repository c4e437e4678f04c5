import PromptLine.Text.Basic

namespace PromptLine

namespace Hex

def digit? (c : Char) : Option Nat :=
  if '0' ≤ c ∧ c ≤ '9' then some (c.toNat - 48)
  else if 'a' ≤ c ∧ c ≤ 'f' then some (c.toNat - 87)
  else if 'A' ≤ c ∧ c ≤ 'F' then some (c.toNat - 55)
  else none

def valueFrom (acc : Nat) : Text → Option Nat
  | [] => some acc
  | c :: t =>
      match digit? c with
      | some d => valueFrom (16 * acc + d) t
      | none => none

def value? (t : Text) : Option Nat := valueFrom 0 t

def render (n : Nat) : Text := Nat.toDigits 16 n

def padded : Nat → Nat → Text
  | 0, _ => []
  | width + 1, n => padded width (n / 16) ++ [Nat.digitChar (n % 16)]

end Hex

end PromptLine
