import PromptLine.Backend.Basic
import PromptLine.Catalog.Shelf
import PromptLine.Gemini.Wire
import PromptLine.Json.Reader
import PromptLine.Url.Target

namespace PromptLine

namespace Gemini

def provider : Text := "Gemini".toList

inductive CallError where
  | missingApiKey
  | network
  | refused (status : Nat) (message : Text) (kind : Option Text)
  | blocked (reason : Text)
  | unreadable
  deriving DecidableEq, Repr

def CallError.message : CallError → Text
  | .missingApiKey =>
      "No API key configured (set GEMINI_API_KEY or MODELCALL_API_KEY)".toList
  | .network => "Network error: no answer from the backend".toList
  | .refused _ message _ => message
  | .blocked reason => "Prompt blocked: ".toList ++ reason
  | .unreadable => "Parse error: the answer is not of the expected form".toList

def readReply {α : Type} (read? : Json → Option α) :
    Option (Nat × Utf8.Bytes) → Except CallError α
  | none => .error .network
  | some (status, body) =>
      let text := Utf8.decodeLossy body
      if 200 ≤ status ∧ status < 300 then
        match (Json.read? text).bind read? with
        | some a => .ok a
        | none => .error .unreadable
      else
        match (Json.read? text).bind Refusal.ofJson? with
        | some r => .error (.refused (r.code.getD status) r.message r.status)
        | none => .error (.refused status text none)

structure Client where
  baseUrl : Text
  apiKey : Option Text
  pageSize : Nat
  maxOutputBytes : Nat
  userAgent : Option Text
  deriving DecidableEq, Repr

def isHeaderText (t : Text) : Bool :=
  t.all fun c => (0x20 ≤ c.toNat && c.toNat != 0x7f) || c == '\t'

namespace Client

def agent : Text := "modelcall/0.0.0".toList

def ofConfig (c : Config) : Client :=
  ⟨c.baseUrl, c.apiKey, c.pageSize, c.maxOutputBytes, some agent⟩

def key? (c : Client) : Option Text := c.apiKey.filter (!·.isEmpty)

def address (c : Client) (path : Text) : Text :=
  Text.dropEndWhile (· == '/') c.baseUrl ++ '/' :: path

def request? (c : Client) (key : Text) (verb : Verb) (path : Text) (query : List (Text × Text))
    (body : Option Json) : Option Request :=
  match Url.Target.ofAddress? (c.address path) with
  | none => none
  | some target =>
      if isHeaderText key then
        let target := if query.isEmpty then target else target.withForm query
        some ⟨verb, c.address path, target.render, key, c.userAgent, body⟩
      else none

def exchange (request : Option Request) : StateM Backend (Option (Nat × Utf8.Bytes)) :=
  match request with
  | some r => Backend.send r
  | none => pure none

def maxPages : Nat := 100

def pageQuery (c : Client) (token : Option Text) : List (Text × Text) :=
  ("pageSize".toList, Decimal.render c.pageSize) ::
    match token with
    | some t => [("pageToken".toList, t)]
    | none => []

def nextToken? (token : Option Text) (page : Page) : Option Text :=
  match page.nextToken with
  | none => none
  | some t => if t.isEmpty || token == some t then none else some t

def fetchPages (c : Client) (key : Text) :
    (pages : Nat) → (token : Option Text) → StateM Backend (Except CallError (List Resource))
  | 0, _ => pure (.ok [])
  | pages + 1, token => do
      let reply ← exchange (c.request? key .get "models".toList (c.pageQuery token) none)
      match readReply Page.ofJson? reply with
      | .error e => pure (.error e)
      | .ok page =>
          match nextToken? token page with
          | none => pure (.ok page.models)
          | some t =>
              match ← c.fetchPages key pages (some t) with
              | .error e => pure (.error e)
              | .ok models => pure (.ok (page.models ++ models))

def fetchModels (c : Client) : StateM Backend (Except CallError (List Entry)) :=
  match c.key? with
  | none => pure (.error .missingApiKey)
  | some key => do
      match ← c.fetchPages key maxPages none with
      | .error e => pure (.error e)
      | .ok models => pure (.ok (models.map Resource.entry))

def listing (c : Client) : StateM Backend Listing := do
  match ← c.fetchModels with
  | .ok entries => pure ⟨provider, .ok entries⟩
  | .error e => pure ⟨provider, .error (.fetch provider e.message)⟩

def post {α : Type} (c : Client) (path : Text) (body : Json) (read? : Json → Option α) :
    StateM Backend (Except CallError α) :=
  match c.key? with
  | none => pure (.error .missingApiKey)
  | some key => do
      let reply ← exchange (c.request? key .post path [] (some body))
      pure (readReply read? reply)

def methodPath (model method : Text) : Text :=
  Resource.collection ++ model ++ ':' :: method

def contents (role : List (Text × Json)) (query : Text) : Json :=
  .object [("contents".toList, .array [.object (role ++
    [("parts".toList, .array [.object [("text".toList, .ofText query)]])])])]

def generateContent (c : Client) (model query : Text) : StateM Backend (Except CallError Text) := do
  let body := contents [("role".toList, .ofText "user".toList)] query
  match ← c.post (methodPath model "generateContent".toList) body Generation.ofJson? with
  | .error e => pure (.error e)
  | .ok g =>
      match g.text with
      | .ok text => pure (.ok text)
      | .error reason => pure (.error (.blocked reason))

def countTokens (c : Client) (model query : Text) : StateM Backend (Except CallError Nat) :=
  c.post (methodPath model "countTokens".toList) (contents [] query) tokenCountOfJson?

end Client

end Gemini

end PromptLine
