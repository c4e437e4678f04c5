import PromptLine.Execution.Registry
import PromptLine.Execution.Truncation
import PromptLine.Gemini.Client

namespace PromptLine

namespace Gemini

namespace Client

def generating (c : Client) : Executor Backend := fun command => do
  match ← c.generateContent command.model command.query with
  | .ok text => pure (.ok (Truncation.truncate c.maxOutputBytes text))
  | .error e => pure (.error (.backend e.message))

def counting (c : Client) : Executor Backend := fun command => do
  match ← c.countTokens command.model command.query with
  | .ok n => pure (.ok (Decimal.render n))
  | .error e => pure (.error (.backend e.message))

def registerOn (c : Client) (r : Registry Backend) : Registry Backend :=
  ((r.register ⟨provider, "generateContent".toList, c.generating⟩).register
    ⟨provider, "generateText".toList, c.generating⟩).register
    ⟨provider, "countTokens".toList, c.counting⟩

def registry (c : Client) : Registry Backend := c.registerOn .empty

end Client

end Gemini

end PromptLine
