import PromptLine.Catalog.Basic
import PromptLine.Config.Basic
import PromptLine.Json.Record

namespace PromptLine

namespace Gemini

structure Refusal where
  code : Option Nat
  message : Text
  status : Option Text
  deriving DecidableEq, Repr

def Refusal.ofJson? (v : Json) : Option Refusal := do
  let outer ← Json.fields? false ["error".toList] v
  outer.required? "error".toList fun v => do
    let fields ← Json.fields? false (["code", "message", "status"].map String.toList) v
    let code ← fields.optional? "code".toList (Json.nat? UInt16.size)
    let message ← fields.required? "message".toList Json.text?
    let status ← fields.optional? "status".toList Json.text?
    return ⟨code, message, status⟩

structure Resource where
  name : Text
  displayName : Option Text
  methods : List Text
  deriving DecidableEq, Repr

namespace Resource

def collection : Text := "models/".toList

def ofJson? (v : Json) : Option Resource := do
  let names := ["name", "displayName", "supportedGenerationMethods"].map String.toList
  let fields ← Json.fields? false names v
  let name ← fields.required? "name".toList Json.text?
  let displayName ← fields.optional? "displayName".toList Json.text?
  let methods ← fields.defaulted? "supportedGenerationMethods".toList Json.text?
  return ⟨name, displayName, methods⟩

def entry (r : Resource) : Entry :=
  ⟨Text.dropStart collection r.name, r.displayName, r.methods⟩

end Resource

structure Page where
  models : List Resource
  nextToken : Option Text
  deriving DecidableEq, Repr

def Page.ofJson? (v : Json) : Option Page := do
  let fields ← Json.fields? false (["models", "nextPageToken"].map String.toList) v
  let models ← fields.defaulted? "models".toList Resource.ofJson?
  let nextToken ← fields.optional? "nextPageToken".toList Json.text?
  return ⟨models, nextToken⟩

structure Choice where
  parts : List (Option Text)
  finishReason : Option Text
  deriving DecidableEq, Repr

namespace Choice

def partOfJson? (v : Json) : Option (Option Text) := do
  let fields ← Json.fields? false ["text".toList] v
  fields.optional? "text".toList Json.text?

def contentOfJson? (v : Json) : Option (List (Option Text)) := do
  let fields ← Json.fields? false ["parts".toList] v
  fields.defaulted? "parts".toList partOfJson?

def ofJson? (v : Json) : Option Choice := do
  let fields ← Json.fields? false (["content", "finishReason"].map String.toList) v
  let content ← fields.optional? "content".toList contentOfJson?
  let finishReason ← fields.optional? "finishReason".toList Json.text?
  return ⟨content.getD [], finishReason⟩

def text (c : Choice) : Text := (c.parts.filterMap id).flatten

end Choice

structure Generation where
  choices : List Choice
  blockReason : Option Text
  deriving DecidableEq, Repr

namespace Generation

def feedbackOfJson? (v : Json) : Option (Option Text) := do
  let fields ← Json.fields? false ["blockReason".toList] v
  fields.optional? "blockReason".toList Json.text?

def ofJson? (v : Json) : Option Generation := do
  let fields ← Json.fields? false (["candidates", "promptFeedback"].map String.toList) v
  let choices ← fields.defaulted? "candidates".toList Choice.ofJson?
  let feedback ← fields.optional? "promptFeedback".toList feedbackOfJson?
  return ⟨choices, feedback.bind id⟩

def text (g : Generation) : Except Text Text :=
  match g.blockReason, g.choices with
  | some reason, _ => .error reason
  | none, [] => .ok []
  | none, choice :: _ =>
      if choice.finishReason = some "SAFETY".toList then
        .error "response blocked due to safety concerns".toList
      else .ok choice.text

end Generation

def tokenCountOfJson? (v : Json) : Option Nat := do
  let fields ← Json.fields? false ["totalTokens".toList] v
  fields.required? "totalTokens".toList (Json.nat? countBound)

end Gemini

end PromptLine
