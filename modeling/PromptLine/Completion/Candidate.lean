import PromptLine.Catalog.Basic
import PromptLine.Completion.Context
import PromptLine.Text.Lowercase

namespace PromptLine

structure Candidate where
  label : Text
  insert : Text
  replaces : Extent
  detail : Option Text
  deriving DecidableEq, Repr

namespace Candidate

def applyTo (c : Candidate) (text : Text) : Text × Nat :=
  let start := min c.replaces.start text.length
  let stop := max start (min c.replaces.stop text.length)
  (text.take start ++ c.insert ++ text.drop stop, start + c.insert.length)

end Candidate

def Context.admits (ctx : Context) (value : Text) : Bool :=
  (Text.lower ctx.typed).isPrefixOf (Text.lower value)

structure Completer where
  providers : List Text
  deriving DecidableEq, Repr

structure Completion where
  context : Context
  candidates : List Candidate
  deriving DecidableEq, Repr

namespace Completer

def serves (c : Completer) (provider : Option Text) (catalog : Catalog) : Bool :=
  match provider with
  | some p => c.providers.contains p && catalog.provider == p
  | none => false

def values (c : Completer) (ctx : Context) (catalog : Catalog) : List (Text × Option Text) × Text :=
  match ctx.stage with
  | .provider => (c.providers.map fun p => (p, none), ['.'])
  | .model =>
      if c.serves ctx.provider catalog then
        (catalog.entries.map fun e => (e.name, e.displayName), ['.'])
      else ([], [])
  | .method =>
      if c.serves ctx.provider catalog then
        match ctx.model.bind catalog.get? with
        | some e => (e.actions.map fun a => (a, none), ['('])
        | none => ([], [])
      else ([], [])
  | .arguments => ([], [])

def candidates (c : Completer) (ctx : Context) (catalog : Catalog) : List Candidate :=
  let (values, close) := c.values ctx catalog
  (values.filter fun (value, _) => ctx.admits value).map fun (value, detail) =>
    ⟨value, value ++ close, ctx.replaces, detail⟩

def complete (c : Completer) (text : Text) (cursor : Nat) (catalog : Catalog) : Completion :=
  let ctx := Context.resolve text cursor
  ⟨ctx, c.candidates ctx catalog⟩

end Completer

end PromptLine
