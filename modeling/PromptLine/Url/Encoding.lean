import PromptLine.Text.Hex
import PromptLine.Text.Utf8

namespace PromptLine

namespace Url

def percentByte (b : UInt8) : Text :=
  ['%', (Nat.digitChar (b.toNat / 16)).toUpper, (Nat.digitChar (b.toNat % 16)).toUpper]

def percentChar (c : Char) : Text := (String.utf8EncodeChar c).flatMap percentByte

def percent (set : Char → Bool) (t : Text) : Text :=
  t.flatMap fun c => if set c then percentChar c else [c]

def isControlOrNonAscii (c : Char) : Bool := c.toNat < 0x20 || 0x7e < c.toNat

def pathSet (c : Char) : Bool :=
  isControlOrNonAscii c || [' ', '"', '#', '<', '>', '?', '^', Char.ofNat 0x60, '{', '}'].contains c

def querySet (c : Char) : Bool :=
  isControlOrNonAscii c || [' ', '"', '#', '<', '>', '\''].contains c

def isFormChar (c : Char) : Bool := c.isAlphanum || ['*', '-', '.', '_'].contains c

def formText (t : Text) : Text :=
  t.flatMap fun c => if c = ' ' then ['+'] else if isFormChar c then [c] else percentChar c

def form (pairs : List (Text × Text)) : Text :=
  Text.join ['&'] (pairs.map fun (name, value) => formText name ++ '=' :: formText value)

end Url

end PromptLine
