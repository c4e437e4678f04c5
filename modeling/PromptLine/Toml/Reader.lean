import PromptLine.Text.Decimal
import PromptLine.Toml.Token

namespace PromptLine

namespace Toml

inductive Value where
  | string (t : Text)
  | integer (n : Int)
  deriving DecidableEq, Repr

abbrev Document := List (Text × Value)

def digits? (p : Char → Bool) : Text → Option Text
  | [] => none
  | [c] => if p c then some [c] else none
  | c :: '_' :: rest => if p c then (digits? p rest).map (c :: ·) else none
  | c :: rest => if p c then (digits? p rest).map (c :: ·) else none

def valueInBase (base : Nat) (t : Text) : Nat :=
  t.foldl (fun acc c => base * acc + (Hex.digit? c).getD 0) 0

def inBase? (base : Nat) (t : Text) : Option Nat :=
  (digits? (fun c => match Hex.digit? c with
    | some d => d < base
    | none => false) t).map (valueInBase base)

def decimal? : Text → Option Nat
  | ['0'] => some 0
  | '0' :: _ => none
  | t => inBase? 10 t

def integer? : Text → Option Int
  | '0' :: 'x' :: t => (inBase? 16 t).map Int.ofNat
  | '0' :: 'o' :: t => (inBase? 8 t).map Int.ofNat
  | '0' :: 'b' :: t => (inBase? 2 t).map Int.ofNat
  | '+' :: t => (decimal? t).map Int.ofNat
  | '-' :: t => (decimal? t).map fun n => -Int.ofNat n
  | t => (decimal? t).map Int.ofNat

def isBareKey (t : Text) : Bool := t.all fun c => c.isAlphanum || c == '_' || c == '-'

def key? : Token → Option Text
  | .word t => if isBareKey t then some t else none
  | .string false t => some t
  | _ => none

def value? : Token → Option Value
  | .word t => (integer? t).map .integer
  | .string _ t => some (.string t)
  | _ => none

def assignment? : List Token → Option (Text × Value)
  | [k, .equals, v] =>
      match key? k, value? v with
      | some k, some v => some (k, v)
      | _, _ => none
  | _ => none

def assignments? (line : List Token) : List Token → Option Document
  | [] => if line.isEmpty then some [] else (assignment? line.reverse).map ([·])
  | .newline :: rest =>
      if line.isEmpty then assignments? [] rest
      else
        match assignment? line.reverse, assignments? [] rest with
        | some e, some es => some (e :: es)
        | _, _ => none
  | t :: rest => assignments? (t :: line) rest

/-- Reads a flat document, which a byte order mark may precede. Only strings and integers are
values here: a document that holds anything else is refused as a whole. -/
def read? (t : Text) : Option Document := do
  let tokens ← Token.scan .between (Text.dropStart [Char.ofNat 0xfeff] t)
  let doc ← assignments? [] tokens
  if (doc.map Prod.fst).Nodup then some doc else none

end Toml

end PromptLine
