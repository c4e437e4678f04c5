import PromptLine.Json.Basic
import PromptLine.Text.Utf8
import PromptLine.Url.Target

namespace PromptLine

inductive Verb where
  | get
  | post
  deriving DecidableEq, Repr

def Verb.name : Verb → Text
  | .get => "GET".toList
  | .post => "POST".toList

structure Request where
  verb : Verb
  address : Text
  target : Text
  key : Text
  userAgent : Option Text
  body : Option Json

/-- What comes back for a request: an answer, or nothing that could be read to its end. A location
is the whole address that it stands for where the request was sent; one that stands for no address
is left out. -/
inductive Reply where
  | answer (status : Nat) (body : Utf8.Bytes) (location : Option Text)
  | broken
  deriving DecidableEq, Repr

namespace Reply

def received : Reply → Option (Nat × Utf8.Bytes)
  | .answer status body _ => some (status, if status = 204 ∨ status = 304 then [] else body)
  | .broken => none

/-- Where an answer sends its receiver on to, and whether it is to ask the same there or only to
look. -/
def onward? : Reply → Option (Text × Bool)
  | .answer status _ (some location) =>
      if [301, 302, 303].contains status then some (location, false)
      else if [307, 308].contains status then some (location, true)
      else none
  | _ => none

end Reply

structure Move where
  again : Bool
  address : Text
  target : Text
  deriving DecidableEq, Repr

def Request.moved (r : Request) (m : Move) : Request :=
  if m.again then { r with address := m.address, target := m.target }
  else { r with verb := .get, address := m.address, target := m.target, body := none }

inductive Course where
  | stays
  | leads (m : Move)
  | strays
  deriving DecidableEq, Repr

/-- What is to come: first `replies`, one for each request, and `after` to every one from then on.
To an address with a target that is not taken no request is sent, be it that there is no connection
or that no request can be addressed so: by its host, its port or its length. -/
structure Script where
  takes : (address target : Text) → Bool
  replies : List Reply
  after : Reply

namespace Script

def reply (s : Script) : Reply := s.replies.headD s.after

def rest (s : Script) : Script := { s with replies := s.replies.tail }

def course (s : Script) : Course :=
  match s.reply.onward? with
  | none => .stays
  | some (location, again) =>
      match Url.Target.ofAddress? location with
      | none => .strays
      | some target =>
          if s.takes location target.render then .leads ⟨again, location, target.render⟩
          else .strays

def maxMoves : Nat := 10

/-- The moves that a single call makes, what it gets in the end, and what is to come behind it. A
call gets nothing if it is sent on more than `limit` times or to where no request can be sent. -/
def call : (limit : Nat) → Script → List Move × Option (Nat × Utf8.Bytes) × Script
  | 0, s => ([], if s.course = .stays then s.reply.received else none, s.rest)
  | limit + 1, s =>
      match s.course with
      | .stays => ([], s.reply.received, s.rest)
      | .strays => ([], none, s.rest)
      | .leads m =>
          let (moves, answer, rest) := s.rest.call limit
          (m :: moves, answer, rest)

end Script

structure Backend where
  script : Script
  requests : List Request

namespace Backend

def offline : Backend := ⟨⟨fun _ _ => false, [], .broken⟩, []⟩

def scripted (replies : List Reply) (after : Reply) : Backend :=
  ⟨⟨fun address target => Utf8.size address + Utf8.size target ≤ 65534, replies, after⟩, []⟩

def takes (b : Backend) (r : Request) : Bool := b.script.takes r.address r.target

def send (r : Request) : StateM Backend (Option (Nat × Utf8.Bytes)) := fun b =>
  if b.takes r then
    let (moves, answer, rest) := b.script.call Script.maxMoves
    (answer, ⟨rest, b.requests ++ moves.scanl Request.moved r⟩)
  else (none, b)

end Backend

end PromptLine
