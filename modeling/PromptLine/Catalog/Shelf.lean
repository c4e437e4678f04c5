import PromptLine.Catalog.Basic

namespace PromptLine

structure Ticket where
  number : UInt64
  deriving DecidableEq, Repr

inductive ListingError where
  | fetch (provider message : Text)
  deriving DecidableEq, Repr

def ListingError.message : ListingError → Text
  | .fetch provider message =>
      "failed to list models for ".toList ++ provider ++ ": ".toList ++ message

structure Listing where
  provider : Text
  models : Except ListingError (List Entry)

/-- The catalog that a listing offers: a failed one offers an empty catalog, so that there is
nothing to complete rather than something out of date. -/
def Listing.catalog (l : Listing) : Catalog :=
  match l.models with
  | .ok entries => .ofEntries l.provider entries
  | .error _ => .empty l.provider

structure Shelf where
  next : UInt64
  installed : UInt64
  catalog : Catalog

namespace Shelf

def ofCatalog (c : Catalog) : Shelf := ⟨1, 0, c⟩

def ofProvider (provider : Text) : Shelf := ofCatalog (.empty provider)

def begin (s : Shelf) : Ticket × Shelf :=
  (⟨s.next⟩, { s with next := s.next + 1 })

def admits (s : Shelf) (t : Ticket) : Bool := s.installed < t.number

def install (s : Shelf) (t : Ticket) (c : Catalog) : Bool × Shelf :=
  if s.admits t then (true, { s with installed := t.number, catalog := c }) else (false, s)

def land (s : Shelf) (t : Ticket) (l : Listing) : Bool × Shelf := s.install t l.catalog

def refresh (s : Shelf) (l : Listing) : Bool × Shelf :=
  let (t, s) := s.begin
  s.land t l

inductive Step where
  | begin
  | install (t : Ticket) (c : Catalog)
  | land (t : Ticket) (l : Listing)
  | refresh (l : Listing)

inductive Reply where
  | ticket (t : Ticket)
  | installed (accepted : Bool)
  deriving DecidableEq, Repr

def step (s : Shelf) : Step → Reply × Shelf
  | .begin => let (t, s) := s.begin; (.ticket t, s)
  | .install t c => let (accepted, s) := s.install t c; (.installed accepted, s)
  | .land t l => let (accepted, s) := s.land t l; (.installed accepted, s)
  | .refresh l => let (accepted, s) := s.refresh l; (.installed accepted, s)

def run (s : Shelf) : List Step → List Reply × Shelf
  | [] => ([], s)
  | step :: rest =>
      let (reply, s) := s.step step
      let (replies, s) := s.run rest
      (reply :: replies, s)

end Shelf

end PromptLine
