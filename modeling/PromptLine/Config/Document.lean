import PromptLine.Config.Basic
import PromptLine.Json.Record
import PromptLine.Toml.Reader

namespace PromptLine

namespace Layer

def ofJson? (v : Json) : Option Layer := do
  let fields ← Json.fields? true names v
  let provider ← fields.optional? "provider".toList Json.text?
  let apiKey ← fields.optional? "api_key".toList Json.text?
  let baseUrl ← fields.optional? "base_url".toList Json.text?
  let pageSize ← fields.optional? "page_size".toList (Json.nat? pageSizeBound)
  let maxOutputBytes ← fields.optional? "max_output_bytes".toList (Json.nat? countBound)
  let requestTimeout ← fields.optional? "request_timeout_secs".toList (Json.nat? countBound)
  return ⟨provider, apiKey, baseUrl, pageSize, maxOutputBytes, requestTimeout⟩

def textAt? (doc : Toml.Document) (name : Text) : Option (Option Text) :=
  match doc.lookup name with
  | none => some none
  | some (.string t) => some (some t)
  | some (.integer _) => none

def natAt? (bound : Nat) (doc : Toml.Document) (name : Text) : Option (Option Nat) :=
  match doc.lookup name with
  | none => some none
  | some (.string _) => none
  | some (.integer n) => if 0 ≤ n ∧ n < bound then some (some n.toNat) else none

def ofToml? (doc : Toml.Document) : Option Layer := do
  if doc.any fun (key, _) => !names.contains key then none
  let provider ← textAt? doc "provider".toList
  let apiKey ← textAt? doc "api_key".toList
  let baseUrl ← textAt? doc "base_url".toList
  let pageSize ← natAt? pageSizeBound doc "page_size".toList
  let maxOutputBytes ← natAt? countBound doc "max_output_bytes".toList
  let requestTimeout ← natAt? countBound doc "request_timeout_secs".toList
  return ⟨provider, apiKey, baseUrl, pageSize, maxOutputBytes, requestTimeout⟩

end Layer

end PromptLine
