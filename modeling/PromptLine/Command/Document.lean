import PromptLine.Command.Basic
import PromptLine.Json.Record

namespace PromptLine

namespace Command

def toJson (c : Command) : Json :=
  .object [
    ("provider".toList, .ofText c.provider),
    ("model".toList, .ofText c.model),
    ("method".toList, .ofText c.method),
    ("query".toList, .ofText c.query)]

def ofJson? (v : Json) : Option Command := do
  let names := ["provider", "model", "method", "query"].map String.toList
  let fields ← Json.fields? false names v
  let provider ← fields.required? "provider".toList Json.text?
  let model ← fields.required? "model".toList Json.text?
  let method ← fields.required? "method".toList Json.text?
  let query ← fields.required? "query".toList Json.text?
  return ⟨provider, model, method, query⟩

end Command

end PromptLine
