import PromptLine.Catalog.Shelf
import PromptLine.Session.Basic

namespace PromptLine

structure Workspace (σ : Type) where
  registry : Registry σ
  shelf : Shelf
  sessions : List Session

namespace Workspace

variable {σ : Type}

inductive Action where
  | look
  | setText (text : Text) (cursor : Nat)
  | completions
  | accept (index : Nat)
  | place (c : Candidate)
  | run
  | clone

inductive Step where
  | session (index : Nat) (action : Action)
  | shelf (s : Shelf.Step)

inductive Reply where
  | done
  | completion (c : Completion)
  | noSuchCandidate
  | noSuchSession
  | outcome (o : Outcome)
  | cloned (index : Nat)
  | shelf (r : Shelf.Reply)
  deriving DecidableEq, Repr

def withSession (w : Workspace σ) (index : Nat) (s : Session) : Workspace σ :=
  { w with sessions := w.sessions.set index s }

def acceptIn (w : Workspace σ) (index : Nat) (s : Session) (c : Candidate) : Reply × Workspace σ :=
  let s := s.accept c
  (.completion (s.completions w.shelf.catalog), w.withSession index s)

def act (w : Workspace σ) (index : Nat) (s : Session) : Action → StateM σ (Reply × Workspace σ)
  | .look => pure (.done, w)
  | .setText text cursor => pure (.done, w.withSession index (s.setText text cursor))
  | .completions => pure (.completion (s.completions w.shelf.catalog), w)
  | .accept i =>
      match (s.completions w.shelf.catalog).candidates[i]? with
      | some c => pure (w.acceptIn index s c)
      | none => pure (.noSuchCandidate, w)
  | .place c => pure (w.acceptIn index s c)
  | .run => do
      let outcome ← s.run w.registry.execute
      pure (.outcome outcome, w)
  | .clone => pure (.cloned w.sessions.length, { w with sessions := w.sessions ++ [s] })

def step (w : Workspace σ) : Step → StateM σ (Reply × Workspace σ)
  | .session index action =>
      match w.sessions[index]? with
      | some s => w.act index s action
      | none => pure (.noSuchSession, w)
  | .shelf s =>
      let (reply, shelf) := w.shelf.step s
      pure (.shelf reply, { w with shelf := shelf })

def steps (w : Workspace σ) : List Step → StateM σ (List Reply × Workspace σ)
  | [] => pure ([], w)
  | s :: rest => do
      let (reply, w) ← w.step s
      let (replies, w) ← w.steps rest
      pure (reply :: replies, w)

end Workspace

end PromptLine
