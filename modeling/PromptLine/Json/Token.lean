import PromptLine.Json.Basic
import PromptLine.Text.Hex

namespace PromptLine

namespace Json

inductive Token where
  | openArray
  | closeArray
  | openObject
  | closeObject
  | comma
  | colon
  | word (t : Text)
  | number (t : Text)
  | string (t : Text)
  deriving DecidableEq, Repr

def isDigits (t : Text) : Bool := !t.isEmpty && t.all Char.isDigit

def isWhole : Text → Bool
  | ['0'] => true
  | '0' :: _ => false
  | t => isDigits t

def isExponent : Text → Bool
  | '+' :: t => isDigits t
  | '-' :: t => isDigits t
  | t => isDigits t

def isNumber (t : Text) : Bool :=
  let t := Text.dropStart ['-'] t
  let whole := t.takeWhile Char.isDigit
  isWhole whole &&
    match t.dropWhile Char.isDigit with
    | [] => true
    | '.' :: t =>
        isDigits (t.takeWhile Char.isDigit) &&
          match t.dropWhile Char.isDigit with
          | [] => true
          | e :: t => (e == 'e' || e == 'E') && isExponent t
    | e :: t => (e == 'e' || e == 'E') && isExponent t

namespace Token

def isBlank (c : Char) : Bool := c == ' ' || c == '\t' || c == '\n' || c == '\r'

def ofMark? : Char → Option Token
  | '[' => some .openArray
  | ']' => some .closeArray
  | '{' => some .openObject
  | '}' => some .closeObject
  | ',' => some .comma
  | ':' => some .colon
  | _ => none

def isNumberChar (c : Char) : Bool :=
  c.isDigit || c == '-' || c == '+' || c == '.' || c == 'e' || c == 'E'

inductive Mode where
  | between
  | word (seen : Text)
  | number (seen : Text)
  | string (seen : Text)
  | escape (seen : Text)
  | code (owed : Nat) (seen : Text)
  deriving DecidableEq, Repr

def Mode.close : Mode → List Token
  | .word seen => [.word seen.reverse]
  | .number seen => [.number seen.reverse]
  | _ => []

def first (c : Char) : Option (List Token × Mode) :=
  if isBlank c then some ([], .between)
  else if c = '"' then some ([], .string [])
  else if c.isDigit ∨ c = '-' then some ([], .number [c])
  else if c.isLower then some ([], .word [c])
  else (ofMark? c).map fun t => ([t], .between)

def next (m : Mode) (c : Char) : Option (List Token × Mode) :=
  match m with
  | .between => first c
  | .word seen =>
      if c.isLower then some ([], .word (c :: seen))
      else (first c).map fun (ts, m) => (.word seen.reverse :: ts, m)
  | .number seen =>
      if isNumberChar c then some ([], .number (c :: seen))
      else (first c).map fun (ts, m) => (.number seen.reverse :: ts, m)
  | .string seen =>
      if c = '"' then some ([.string seen.reverse], .between)
      else if c = '\\' then some ([], .escape (c :: seen))
      else if c.toNat < 0x20 then none
      else some ([], .string (c :: seen))
  | .escape seen =>
      if c = 'u' then some ([], .code 4 (c :: seen))
      else if ['"', '\\', '/', 'b', 'f', 'n', 'r', 't'].contains c then
        some ([], .string (c :: seen))
      else none
  | .code owed seen =>
      if (Hex.digit? c).isSome then
        some ([], if owed ≤ 1 then .string (c :: seen) else .code (owed - 1) (c :: seen))
      else none

def scan (m : Mode) : Text → Option (List Token)
  | [] =>
      match m with
      | .string _ => none
      | .escape _ => none
      | .code _ _ => none
      | m => some m.close
  | c :: rest =>
      match next m c with
      | some (ts, m) => (scan m rest).map (ts ++ ·)
      | none => none

end Token

end Json

end PromptLine
