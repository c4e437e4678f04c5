import PromptLine.Text.Basic

namespace PromptLine

namespace Decimal

def render (n : Nat) : Text := Nat.toDigits 10 n

def digit? (c : Char) : Option Nat :=
  if c.isDigit then some (c.toNat - 48) else none

def valueFrom (acc : Nat) : Text → Option Nat
  | [] => some acc
  | c :: t =>
      match digit? c with
      | some d => valueFrom (10 * acc + d) t
      | none => none

def value? : Text → Option Nat
  | [] => none
  | c :: t => valueFrom 0 (c :: t)

def natural? (bound : Nat) (t : Text) : Option Nat :=
  match value? (Text.dropStart ['+'] t) with
  | some n => if n < bound then some n else none
  | none => none

end Decimal

end PromptLine
