import PromptLine.Text.Blank

namespace PromptLine

inductive Stage where
  | provider
  | model
  | method
  | arguments
  deriving DecidableEq, Repr

namespace Stage

def name : Stage → Text
  | .provider => "provider".toList
  | .model => "model".toList
  | .method => "method".toList
  | .arguments => "arguments".toList

def next : Stage → Stage
  | .provider => .model
  | .model => .method
  | .method => .arguments
  | .arguments => .arguments

end Stage

structure Extent where
  start : Nat
  stop : Nat
  deriving DecidableEq, Repr

structure Context where
  stage : Stage
  typed : Text
  replaces : Extent
  provider : Option Text
  model : Option Text
  deriving DecidableEq, Repr

namespace Context

def ofHead (head : Text) (lead cursor : Nat) : Context :=
  if '(' ∈ head then ⟨.arguments, [], ⟨cursor, cursor⟩, none, none⟩
  else
    match Text.cut? '.' head with
    | none => ⟨.provider, head, ⟨lead, cursor⟩, none, none⟩
    | some (provider, rest) =>
        match Text.cutLast? '.' rest with
        | none => ⟨.model, rest, ⟨lead + provider.length + 1, cursor⟩, some provider, none⟩
        | some (model, typed) =>
            ⟨.method, typed, ⟨lead + provider.length + model.length + 2, cursor⟩,
              some provider, some model⟩

def resolve (text : Text) (cursor : Nat) : Context :=
  let before := text.take cursor
  let current := Text.trimStart before
  ofHead (Text.trimEnd current) (before.length - current.length) before.length

end Context

end PromptLine
