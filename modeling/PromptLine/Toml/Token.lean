import PromptLine.Text.Hex

namespace PromptLine

namespace Toml

inductive Token where
  | word (t : Text)
  | string (tripled : Bool) (t : Text)
  | equals
  | newline
  deriving DecidableEq, Repr

namespace Token

structure Quote where
  mark : Char
  tripled : Bool
  deriving DecidableEq, Repr

/-- What is being read, with what has been seen of it, last character first.
`opening` counts the quotes at the start of a string. `quotes` counts those that may end a tripled
string. `carriage` and `stringCarriage` wait for the line feed behind a carriage return. `gap` is
what a backslash at the end of a line leaves out; it must hold a line end. -/
inductive Mode where
  | between
  | word (seen : Text)
  | comment
  | carriage
  | opening (mark : Char) (count : Nat)
  | tripleOpened (mark : Char)
  | tripleOpenedCarriage (mark : Char)
  | string (q : Quote) (quotes : Nat) (seen : Text)
  | stringCarriage (q : Quote) (seen : Text)
  | escape (q : Quote) (seen : Text)
  | code (q : Quote) (owed value : Nat) (seen : Text)
  | gap (q : Quote) (ended : Bool) (seen : Text)
  | gapCarriage (q : Quote) (seen : Text)
  deriving DecidableEq, Repr

abbrev Next := Option (List Token × Mode)

def isControl (c : Char) : Bool := (c.toNat < 0x20 && c != '\t') || c.toNat == 0x7f

def isWordChar (c : Char) : Bool :=
  c.isAlphanum || c == '_' || c == '-' || c == '+' || c == '.' || c == ':'

def first (c : Char) : Next :=
  if c = ' ' ∨ c = '\t' then some ([], .between)
  else if c = '\n' then some ([.newline], .between)
  else if c = '\r' then some ([], .carriage)
  else if c = '#' then some ([], .comment)
  else if c = '=' then some ([.equals], .between)
  else if c = '"' ∨ c = '\'' then some ([], .opening c 1)
  else if isWordChar c then some ([], .word [c])
  else none

def firstAfter (t : Token) (c : Char) : Next :=
  (first c).map fun (ts, m) => (t :: ts, m)

def inString (q : Quote) (seen : Text) (c : Char) : Next :=
  if c = '\\' ∧ q.mark = '"' then some ([], .escape q seen)
  else if c = '\n' then if q.tripled then some ([], .string q 0 (c :: seen)) else none
  else if c = '\r' then if q.tripled then some ([], .stringCarriage q (c :: seen)) else none
  else if isControl c then none
  else some ([], .string q 0 (c :: seen))

def nextInString (q : Quote) (quotes : Nat) (seen : Text) (c : Char) : Next :=
  if q.tripled then
    if c = q.mark then
      if quotes < 5 then some ([], .string q (quotes + 1) seen) else none
    else if quotes < 3 then inString q (List.replicate quotes q.mark ++ seen) c
    else
      firstAfter (.string true (List.replicate (quotes - 3) q.mark ++ seen).reverse) c
  else if c = q.mark then some ([.string false seen.reverse], .between)
  else inString q seen c

def nextInEscape (q : Quote) (seen : Text) (c : Char) : Next :=
  let char (e : Char) : Next := some ([], .string q 0 (e :: seen))
  if c = '"' ∨ c = '\\' then char c
  else if c = 'b' then char (Char.ofNat 8)
  else if c = 't' then char '\t'
  else if c = 'n' then char '\n'
  else if c = 'f' then char (Char.ofNat 12)
  else if c = 'r' then char '\r'
  else if c = 'e' then char (Char.ofNat 27)
  else if c = 'x' then some ([], .code q 2 0 seen)
  else if c = 'u' then some ([], .code q 4 0 seen)
  else if c = 'U' then some ([], .code q 8 0 seen)
  else if q.tripled then
    if c = ' ' ∨ c = '\t' then some ([], .gap q false seen)
    else if c = '\n' then some ([], .gap q true seen)
    else if c = '\r' then some ([], .gapCarriage q seen)
    else none
  else none

def nextInCode (q : Quote) (owed value : Nat) (seen : Text) (c : Char) : Next :=
  match Hex.digit? c with
  | none => none
  | some d =>
      if 1 < owed then some ([], .code q (owed - 1) (16 * value + d) seen)
      else (charOfCode? (16 * value + d)).map fun e => ([], .string q 0 (e :: seen))

def next (m : Mode) (c : Char) : Next :=
  match m with
  | .between => first c
  | .word seen =>
      if isWordChar c then some ([], .word (c :: seen)) else firstAfter (.word seen.reverse) c
  | .comment =>
      if c = '\n' then some ([.newline], .between)
      else if c = '\r' then some ([], .carriage)
      else if isControl c then none
      else some ([], .comment)
  | .carriage => if c = '\n' then some ([.newline], .between) else none
  | .opening mark count =>
      if c = mark then
        if count = 1 then some ([], .opening mark 2) else some ([], .tripleOpened mark)
      else if count = 1 then nextInString ⟨mark, false⟩ 0 [] c
      else firstAfter (.string false []) c
  | .tripleOpened mark =>
      if c = '\n' then some ([], .string ⟨mark, true⟩ 0 [])
      else if c = '\r' then some ([], .tripleOpenedCarriage mark)
      else nextInString ⟨mark, true⟩ 0 [] c
  | .tripleOpenedCarriage mark =>
      if c = '\n' then some ([], .string ⟨mark, true⟩ 0 []) else none
  | .string q quotes seen => nextInString q quotes seen c
  | .stringCarriage q seen => if c = '\n' then some ([], .string q 0 (c :: seen)) else none
  | .escape q seen => nextInEscape q seen c
  | .code q owed value seen => nextInCode q owed value seen c
  | .gap q ended seen =>
      if c = ' ' ∨ c = '\t' then some ([], .gap q ended seen)
      else if c = '\n' then some ([], .gap q true seen)
      else if c = '\r' then some ([], .gapCarriage q seen)
      else if ended then nextInString q 0 seen c
      else none
  | .gapCarriage q seen => if c = '\n' then some ([], .gap q true seen) else none

def last (m : Mode) : Option (List Token) :=
  match m with
  | .between => some []
  | .comment => some []
  | .word seen => some [.word seen.reverse]
  | .opening _ count => if count = 2 then some [.string false []] else none
  | .string q quotes seen =>
      if 3 ≤ quotes then
        some [.string true (List.replicate (quotes - 3) q.mark ++ seen).reverse]
      else none
  | _ => none

def scan (m : Mode) : Text → Option (List Token)
  | [] => last m
  | c :: rest =>
      match next m c with
      | some (ts, m) => (scan m rest).map (ts ++ ·)
      | none => none

end Token

end Toml

end PromptLine
