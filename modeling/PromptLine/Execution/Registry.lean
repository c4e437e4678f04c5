import PromptLine.Command.Basic
import PromptLine.Firsts
import PromptLine.Text.Escaped

namespace PromptLine

inductive ExecutionError where
  | unsupported (provider method : Text)
  | backend (message : Text)
  deriving DecidableEq, Repr

def ExecutionError.message : ExecutionError → Text
  | .unsupported _ _ => "Method not supported".toList
  | .backend message => message

abbrev Answer := Except ExecutionError Text

abbrev Executor (σ : Type) := Command → StateM σ Answer

structure Slot (σ : Type) where
  provider : Text
  method : Text
  handler : Executor σ

def Slot.key {σ : Type} (s : Slot σ) : Text × Text := (s.provider, s.method)

structure Handlers (σ : Type) where
  slots : List (Slot σ)
  distinct : (slots.map Slot.key).Nodup

namespace Handlers

variable {σ : Type}

def empty : Handlers σ := ⟨[], .nil⟩

def get? (m : Handlers σ) (key : Text × Text) : Option (Executor σ) :=
  (m.slots.find? (·.key = key)).map Slot.handler

def isEmpty (m : Handlers σ) : Bool := m.slots.isEmpty

theorem distinct_insert (m : Handlers σ) (s : Slot σ) :
    ((s :: m.slots.filter (·.key ≠ s.key)).map Slot.key).Nodup := by
  rw [List.map_cons, List.nodup_cons]
  constructor
  · simp
  · exact m.distinct.sublist (List.filter_sublist.map Slot.key)

def insert (m : Handlers σ) (s : Slot σ) : Handlers σ × Option (Executor σ) :=
  (⟨s :: m.slots.filter (·.key ≠ s.key), m.distinct_insert s⟩, m.get? s.key)

end Handlers

structure Registry (σ : Type) where
  handlers : Handlers σ
  order : List (Text × Text)

namespace Registry

variable {σ : Type}

def empty : Registry σ := ⟨.empty, []⟩

def register (r : Registry σ) (s : Slot σ) : Registry σ :=
  let (handlers, replaced) := r.handlers.insert s
  if replaced.isNone then ⟨handlers, r.order ++ [s.key]⟩ else ⟨handlers, r.order⟩

def lookup? (r : Registry σ) (provider method : Text) : Option (Executor σ) :=
  r.handlers.get? (provider, method)

def providers (r : Registry σ) : List Text := firstsBy id (r.order.map Prod.fst)

def methods (r : Registry σ) (provider : Text) : List Text :=
  (r.order.filter (·.1 = provider)).map Prod.snd

def isEmpty (r : Registry σ) : Bool := r.handlers.isEmpty

def describe (r : Registry σ) : Text :=
  "HandlerRegistry \x7b handlers: [".toList ++
    Text.join ", ".toList (r.order.map fun (provider, method) =>
      ['('] ++ Escaped.quoted provider ++ ", ".toList ++ Escaped.quoted method ++ [')']) ++
    "] \x7d".toList

def execute (r : Registry σ) : Executor σ := fun c =>
  match r.lookup? c.provider c.method with
  | some handler => handler c
  | none => pure (.error (.unsupported c.provider c.method))

end Registry

end PromptLine
