import PromptLine.Firsts
import PromptLine.Text.Basic

namespace PromptLine

structure Entry where
  name : Text
  displayName : Option Text
  actions : List Text
  deriving DecidableEq, Repr

namespace Entry

def label (e : Entry) : Text := e.displayName.getD e.name

def defaultAction (e : Entry) : Option Text := e.actions.head?

end Entry

structure Catalog where
  provider : Text
  entries : List Entry
  distinct : (entries.map Entry.name).Nodup
  deriving DecidableEq

namespace Catalog

def ofEntries (provider : Text) (entries : List Entry) : Catalog where
  provider := provider
  entries := firstsBy Entry.name entries
  distinct := firstsBy_nodup Entry.name entries

def empty (provider : Text) : Catalog := ofEntries provider []

def size (c : Catalog) : Nat := c.entries.length

def isEmpty (c : Catalog) : Bool := c.entries.isEmpty

def get? (c : Catalog) (name : Text) : Option Entry :=
  c.entries.find? (·.name = name)

theorem get?_eq_some_iff {c : Catalog} {name : Text} {e : Entry} :
    c.get? name = some e ↔ e ∈ c.entries ∧ e.name = name :=
  find?_key_eq_some_iff Entry.name c.distinct

def defaultSelection (c : Catalog) : Option (Entry × Option Text) :=
  c.entries.head?.map fun e => (e, e.defaultAction)

end Catalog

end PromptLine
