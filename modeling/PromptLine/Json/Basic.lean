import PromptLine.Text.Decimal

namespace PromptLine

/-- A document as it is spelled: a string keeps the characters between its quotes and a number
its digits, so that what nobody asks for need not have a meaning. -/
inductive Json where
  | null
  | bool (value : Bool)
  | number (spelling : Text)
  | string (spelling : Text)
  | array (items : List Json)
  | object (members : List (Text × Json))
  deriving Repr

end PromptLine
