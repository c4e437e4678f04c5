import PromptLine.Completion.Candidate
import PromptLine.Session.Outcome

namespace PromptLine

structure Session where
  completer : Completer
  text : Text
  cursor : Nat
  deriving DecidableEq, Repr

namespace Session

def start (provider : Text) (completer : Completer) : Session :=
  ⟨completer, provider, provider.length⟩

def setText (s : Session) (text : Text) (cursor : Nat) : Session :=
  { s with text := text, cursor := min cursor text.length }

def completions (s : Session) (catalog : Catalog) : Completion :=
  s.completer.complete s.text s.cursor catalog

def accept (s : Session) (c : Candidate) : Session :=
  let (text, cursor) := c.applyTo s.text
  { s with text := text, cursor := cursor }

def run {σ : Type} (s : Session) (execute : Executor σ) : StateM σ Outcome :=
  Outcome.ofText execute s.text

end Session

end PromptLine
