import PromptLine.Command.Path

namespace PromptLine

def isWordChar (c : Char) : Bool := c.isAlphanum || c == '_'

def isModelChar (c : Char) : Bool := isWordChar c || c == '.' || c == '-'

namespace Text

def isIdentifier (t : Text) : Bool := !t.isEmpty && t.all isWordChar

def isModelIdentifier (t : Text) : Bool := !t.isEmpty && t.all isModelChar

end Text

def Path.wellFormed (p : Path) : Bool :=
  Text.isIdentifier p.provider && Text.isModelIdentifier p.model && Text.isIdentifier p.method

structure Command where
  provider : Text
  model : Text
  method : Text
  query : Text
  deriving DecidableEq, Repr

namespace Command

def path (c : Command) : Path := ⟨c.provider, c.model, c.method⟩

/-- The canonical text. The query stands between double quotes as it is: reading finds its end
from the closing parenthesis, so nothing in it needs an escape. -/
def render (c : Command) : Text := c.path.render ++ ['(', '"'] ++ c.query ++ ['"', ')']

end Command

end PromptLine
