import PromptLine.Command.Basic
import PromptLine.Text.Blank

namespace PromptLine

inductive ParseError where
  | malformedSyntax (raw : Text)
  deriving DecidableEq, Repr

namespace ParseError

def reason : ParseError → Text
  | .malformedSyntax _ => "malformed-syntax".toList

def raw : ParseError → Text
  | .malformedSyntax raw => raw

def message (e : ParseError) : Text :=
  e.reason ++ ": expected Provider.Model.Method(\"query\")".toList

end ParseError

def Text.dropLast? (last : Char) (t : Text) : Option Text :=
  if t.getLast? = some last then some t.dropLast else none

namespace Command

def argument? (t : Text) : Option Text :=
  match t.dropWhile isAsciiBlank with
  | [] => none
  | quote :: body =>
      if quote = '"' ∨ quote = '\'' then
        (Text.dropLast? ')' body).bind fun inner =>
          Text.dropLast? quote (Text.dropEndWhile isAsciiBlank inner)
      else none

def read? (t : Text) : Option Command :=
  match Text.cut? '(' t with
  | none => none
  | some (head, rest) =>
      (Path.ofText? (Text.trimEnd head)).bind fun p =>
        if p.wellFormed then
          (argument? rest).map fun query => ⟨p.provider, p.model, p.method, query⟩
        else none

def parse (input : Text) : Except ParseError Command :=
  match read? (Text.trim input) with
  | some c => .ok c
  | none => .error (.malformedSyntax input)

end Command

end PromptLine
