import PromptLine.Json.Basic
import PromptLine.Text.Hex

namespace PromptLine

namespace Json

def spellChar (c : Char) : Text :=
  if c = '"' then ['\\', '"']
  else if c = '\\' then ['\\', '\\']
  else if c = '\n' then ['\\', 'n']
  else if c = '\r' then ['\\', 'r']
  else if c = '\t' then ['\\', 't']
  else if c.toNat = 8 then ['\\', 'b']
  else if c.toNat = 12 then ['\\', 'f']
  else if c.toNat < 0x20 then ['\\', 'u'] ++ Hex.padded 4 c.toNat
  else [c]

def spell (t : Text) : Text := t.flatMap spellChar

inductive Piece where
  | char (c : Char)
  | unit (n : Nat)
  deriving DecidableEq, Repr

def escaped? (c : Char) : Option Char :=
  if c = '"' ∨ c = '\\' ∨ c = '/' then some c
  else if c = 'n' then some '\n'
  else if c = 'r' then some '\r'
  else if c = 't' then some '\t'
  else if c = 'b' then some (Char.ofNat 8)
  else if c = 'f' then some (Char.ofNat 12)
  else none

def pieces? : Text → Option (List Piece)
  | [] => some []
  | '\\' :: 'u' :: a :: b :: c :: d :: rest =>
      match Hex.value? [a, b, c, d] with
      | some n => (pieces? rest).map (.unit n :: ·)
      | none => none
  | '\\' :: c :: rest =>
      match escaped? c with
      | some e => (pieces? rest).map (.char e :: ·)
      | none => none
  | c :: rest => if c = '\\' then none else (pieces? rest).map (.char c :: ·)

def isHighSurrogate (n : Nat) : Bool := 0xd800 ≤ n && n < 0xdc00

def isLowSurrogate (n : Nat) : Bool := 0xdc00 ≤ n && n < 0xe000

def joined? : List Piece → Option Text
  | [] => some []
  | .char c :: rest => (joined? rest).map (c :: ·)
  | .unit high :: .unit low :: rest =>
      if isHighSurrogate high then
        if isLowSurrogate low then
          (joined? rest).map
            (Char.ofNat (0x10000 + 0x400 * (high - 0xd800) + (low - 0xdc00)) :: ·)
        else none
      else
        match charOfCode? high with
        | some c => (joined? (.unit low :: rest)).map (c :: ·)
        | none => none
  | .unit n :: rest =>
      match charOfCode? n with
      | some c => (joined? rest).map (c :: ·)
      | none => none

def unspell? (spelling : Text) : Option Text := (pieces? spelling).bind joined?

def ofText (t : Text) : Json := .string (spell t)

def ofNat (n : Nat) : Json := .number (Decimal.render n)

def text? : Json → Option Text
  | .string spelling => unspell? spelling
  | _ => none

def nat? (bound : Nat) : Json → Option Nat
  | .number spelling =>
      match Decimal.value? spelling with
      | some n => if n < bound then some n else none
      | none => none
  | _ => none

def list? {α : Type} (item? : Json → Option α) : Json → Option (List α)
  | .array items => items.mapM item?
  | _ => none

end Json

end PromptLine
