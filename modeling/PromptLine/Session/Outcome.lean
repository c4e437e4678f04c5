import PromptLine.Command.Reader
import PromptLine.Execution.Registry

namespace PromptLine

inductive Outcome where
  | empty
  | rejected (e : ParseError)
  | failed (e : ExecutionError)
  | output (text : Text)
  deriving DecidableEq, Repr

namespace Outcome

def isSuccess : Outcome → Bool
  | .output _ => true
  | _ => false

def message : Outcome → Text
  | .empty => "Editor is empty.".toList
  | .rejected e => "Invalid command: ".toList ++ e.message
  | .failed e => "Error: ".toList ++ e.message
  | .output [] => "No output received.".toList
  | .output text => text

def ofAnswer : Answer → Outcome
  | .ok text => .output text
  | .error e => .failed e

def ofText {σ : Type} (execute : Executor σ) (text : Text) : StateM σ Outcome :=
  if (Text.trim text).isEmpty then pure .empty
  else
    match Command.parse text with
    | .error e => pure (.rejected e)
    | .ok c => ofAnswer <$> execute c

end Outcome

end PromptLine
