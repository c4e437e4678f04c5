import PromptLine.Catalog.Basic
import PromptLine.Json.Record

namespace PromptLine

def Json.memberOfText? (name : Text) : Option Text → List (Text × Json)
  | some t => [(name, .ofText t)]
  | none => []

namespace Entry

def toJson (e : Entry) : Json :=
  .object (
    [("name".toList, Json.ofText e.name)] ++
    Json.memberOfText? "displayName".toList e.displayName ++
    [("supportedActions".toList, Json.array (e.actions.map Json.ofText))])

def ofJson? (v : Json) : Option Entry := do
  let names := ["name", "displayName", "supportedActions"].map String.toList
  let fields ← Json.fields? false names v
  let name ← fields.required? "name".toList Json.text?
  let displayName ← { fields with listed := false }.optional? "displayName".toList Json.text?
  let actions ← fields.defaulted? "supportedActions".toList Json.text?
  return ⟨name, displayName, actions⟩

def listToJson (entries : List Entry) : Json := .array (entries.map toJson)

def listOfJson? (v : Json) : Option (List Entry) := Json.list? ofJson? v

end Entry

end PromptLine
