import PromptLine.Command.Document
import PromptLine.Completion.Document
import PromptLine.Config.Loader
import PromptLine.Gemini.Handlers
import PromptLine.Json.Printer
import PromptLine.Session.Basic
import PromptLine.Shell.Arguments
import PromptLine.Shell.Dotenv
import PromptLine.Shell.Report

namespace PromptLine

namespace Shell

/-- What a run finds around it. The working directory is `depth` directories below the root. -/
structure Host where
  files : Files
  depth : Nat
  environment : Environment
  accountHome : Option Text

def Host.userHome (h : Host) : Option Text :=
  ((h.environment.lookup "HOME".toList).filter (!·.isEmpty)).or h.accountHome

def nearestFile? (files : Files) : (depth : Nat) → (path : Text) → Option Utf8.Bytes
  | 0, path => (files path).toOption
  | depth + 1, path =>
      match files path with
      | .ok bytes => some bytes
      | .error e =>
          if e = .notFound ∨ e = .isDirectory then nearestFile? files depth ("../".toList ++ path)
          else none

def Host.withDotenv (h : Host) : Host :=
  match nearestFile? h.files h.depth ".env".toList with
  | some bytes => { h with environment := Dotenv.load h.environment bytes }
  | none => h

structure Ending where
  code : Nat
  output : Text
  errors : Text
  deriving DecidableEq, Repr

namespace Ending

def printed (lines : List Text) : Ending := ⟨0, lines.flatMap (· ++ ['\n']), []⟩

def printedJson (v : Json) : Ending := printed [v.pretty]

def refused (message : Text) : Ending := ⟨2, [], message ++ ['\n']⟩

def failed (message : Text) : Ending := ⟨1, [], message ++ ['\n']⟩

def reported (message : Text) (causes : List Text) : Ending :=
  ⟨1, [], (Report.mk message causes).render⟩

def misused : Ending :=
  refused "Usage: modelcall [--config FILE] check|complete|models|run [ARGUMENTS]".toList

end Ending

def causesOfConfigError : ConfigError → List Text
  | e@(.io _ cause) => [e.message, cause.message]
  | .toml => [ConfigError.message .toml, "not a table of settings".toList]
  | e => [e.message]

def causesOfCallError : Gemini.CallError → List Text
  | .network => [Gemini.CallError.message .network, "no answer from the backend".toList]
  | e => [e.message]

def configure (h : Host) (file : Option Text) : Except Ending Config :=
  let loader : Loader := { file := file }
  match loader.load h.files h.environment h.userHome with
  | .error e => .error (.reported "Failed to load configuration".toList (causesOfConfigError e))
  | .ok c =>
      if c.provider = Gemini.provider then .ok c
      else .error (.reported
        ("no backend available for provider '".toList ++ c.provider ++ ['\'']) [])

def check (command : Text) : Ending :=
  match Command.parse command with
  | .ok c => .printedJson c.toJson
  | .error e => .refused (Outcome.rejected e).message

def readCatalog (files : Files) (provider path : Text) : Except Ending Catalog :=
  match files.readText path with
  | .error e => .error (.reported ("Failed to read catalog ".toList ++ path) [e.message])
  | .ok t =>
      match (Json.read? t).bind Entry.listOfJson? with
      | some entries => .ok (.ofEntries provider entries)
      | none => .error (.reported ("Invalid catalog JSON in ".toList ++ path)
          ["not a list of models".toList])

def liveCatalog (c : Config) : StateM Backend Catalog := do
  let shelf := Shelf.ofProvider c.provider
  if c.hasApiKey then
    let listing ← (Gemini.Client.ofConfig c).listing
    return (shelf.refresh listing).2.catalog
  else return shelf.catalog

def completionLines (c : Completion) : List Text :=
  ("stage: ".toList ++ c.context.stage.name ++ "  prefix: ".toList ++
    Escaped.quoted c.context.typed ++ "  replace: ".toList ++
    Decimal.render c.context.replaces.start ++ ['.', '.'] ++
    Decimal.render c.context.replaces.stop) ::
  c.candidates.map fun candidate =>
    [' ', ' '] ++ candidate.label ++ '\t' :: candidate.insert ++
      match candidate.detail with
      | some detail => '\t' :: detail
      | none => []

def complete (text : Text) (cursor : Option Nat) (json : Bool) (catalog : Catalog)
    (c : Config) : Ending :=
  let completer := Completer.mk (Gemini.Client.ofConfig c).registry.providers
  let completion := completer.complete text (cursor.getD text.length) catalog
  if json then .printedJson completion.toJson else .printed (completionLines completion)

def modelLines (c : Catalog) : List Text :=
  c.entries.map (fun e =>
    e.name ++ '\t' :: e.displayName.getD ['-'] ++ '\t' :: Text.join [','] e.actions) ++
  match c.defaultSelection with
  | some (e, some action) => ["default: ".toList ++ e.name ++ '.' :: action]
  | some (e, none) => ["default: ".toList ++ e.name]
  | none => ["no models available".toList]

def models (json : Bool) (c : Config) : StateM Backend Ending := do
  match ← (Gemini.Client.ofConfig c).fetchModels with
  | .error e =>
      return .reported ("Failed to list models for ".toList ++ c.provider) (causesOfCallError e)
  | .ok entries =>
      let catalog := Catalog.ofEntries c.provider entries
      if json then return .printedJson (Entry.listToJson catalog.entries)
      else return .printed (modelLines catalog)

def endingOf (o : Outcome) : Ending :=
  match o with
  | .output _ => .printed [o.message]
  | .empty => .refused o.message
  | .rejected _ => .refused o.message
  | .failed _ => .failed o.message

def run (command : Text) (c : Config) : StateM Backend Ending := do
  let session := (Session.start c.provider
    ⟨(Gemini.Client.ofConfig c).registry.providers⟩).setText command command.length
  let outcome ← session.run (Gemini.Client.ofConfig c).registry.execute
  return endingOf outcome

def perform (h : Host) (file : Option Text) : Task → StateM Backend Ending
  | .check command => return check command
  | .complete text cursor catalog json =>
      match configure h file with
      | .error ending => return ending
      | .ok c =>
          match catalog with
          | some path =>
              match readCatalog h.files c.provider path with
              | .error ending => return ending
              | .ok catalog => return complete text cursor json catalog c
          | none => do return complete text cursor json (← liveCatalog c) c
  | .models json =>
      match configure h file with
      | .error ending => return ending
      | .ok c => models json c
  | .run command =>
      match configure h file with
      | .error ending => return ending
      | .ok c => run command c

def helpLines : List Text := [
  "Call provider models with Provider.Model.Method(\"query\")",
  "",
  "Usage: modelcall [--config FILE] <COMMAND>",
  "",
  "Commands:",
  "  check <COMMAND>     Parse a command and print it as JSON without running it",
  "  complete <TEXT>     Show completions for partially typed text",
  "                      [--cursor N] [--catalog FILE] [--json]",
  "  models              List the provider's models and their methods [--json]",
  "  run <COMMAND>       Parse and execute a command"].map String.toList

def program? (h : Host) (args : List Text) : StateM Backend (Option Ending) :=
  match Invocation.ofArguments args with
  | .error .misuse => return none
  | .error .help => return some (.printed helpLines)
  | .error .version => return some (.printed ["modelcall 0.0.0".toList])
  | .ok i => do return some (← perform h.withDotenv i.file i.task)

end Shell

end PromptLine
