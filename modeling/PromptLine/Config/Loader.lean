import PromptLine.Config.Document
import PromptLine.Config.Files

namespace PromptLine

inductive ConfigFault where
  | noHome
  | pageSize
  | maxOutputBytes
  | baseUrl (url : Text)
  deriving DecidableEq, Repr

def ConfigFault.message : ConfigFault → Text
  | .noHome => "Cannot determine home directory".toList
  | .pageSize => "page_size must be at least 1".toList
  | .maxOutputBytes => "max_output_bytes must be at least 1".toList
  | .baseUrl url => "base_url must be an http(s) URL, got '".toList ++ url ++ ['\'']

inductive ConfigError where
  | io (path : Text) (cause : FileError)
  | toml
  | invalidVariable (name value : Text)
  | invalid (fault : ConfigFault)
  deriving DecidableEq, Repr

namespace ConfigError

def expected : Text := "a non-negative integer".toList

def message : ConfigError → Text
  | .io path cause =>
      "I/O error loading config ".toList ++ path ++ ": ".toList ++ cause.message
  | .toml => "TOML parsing error: not a table of settings".toList
  | .invalidVariable name value =>
      "Invalid value for $".toList ++ name ++ ": '".toList ++ value ++ "' (expected: ".toList ++
        expected ++ [')']
  | .invalid fault => "Config validation error: ".toList ++ fault.message

end ConfigError

namespace Config

def fault? (c : Config) : Option ConfigFault :=
  if c.pageSize = 0 then some .pageSize
  else if c.maxOutputBytes = 0 then some .maxOutputBytes
  else if "http://".toList.isPrefixOf c.baseUrl || "https://".toList.isPrefixOf c.baseUrl then none
  else some (.baseUrl c.baseUrl)

end Config

structure Loader where
  home : Option Text := none
  file : Option Text := none
  stem : Text := "MODELCALL".toList
  skipFile : Bool := false
  skipVariables : Bool := false
  deriving DecidableEq, Repr

namespace Loader

def homeDirectory? (l : Loader) (env : Environment) (userHome : Option Text) : Option Text :=
  (l.home.or (env.value? "MODELCALL_HOME".toList)).or
    (userHome.map (Files.below · ".modelcall".toList))

def readLayer (files : Files) (path : Text) (required : Bool) : Except ConfigError Layer :=
  match files.readText path with
  | .error .notFound => if required then .error (.io path .notFound) else .ok .empty
  | .error e => .error (.io path e)
  | .ok t =>
      match (Toml.read? t).bind Layer.ofToml? with
      | some layer => .ok layer
      | none => .error .toml

def chosenFile? (l : Loader) (env : Environment) (userHome : Option Text) : Option (Text × Bool) :=
  match l.file with
  | some path => some (path, true)
  | none =>
      (l.homeDirectory? env userHome).map fun home => (Files.below home "config.toml".toList, false)

def fileLayer (l : Loader) (files : Files) (env : Environment) (userHome : Option Text) :
    Except ConfigError Layer :=
  if l.skipFile then .ok .empty
  else
    match l.chosenFile? env userHome with
    | some (path, required) => readLayer files path required
    | none => .error (.invalid .noHome)

def variableName (l : Loader) (name : Text) : Text := l.stem ++ '_' :: name

def text? (l : Loader) (env : Environment) (name : Text) : Option Text :=
  env.value? (l.variableName name)

def number? (l : Loader) (env : Environment) (bound : Nat) (name : Text) :
    Except ConfigError (Option Nat) :=
  match l.text? env name with
  | none => .ok none
  | some value =>
      match Decimal.natural? bound (Text.trim value) with
      | some n => .ok (some n)
      | none => .error (.invalidVariable (l.variableName name) value)

def variableLayer (l : Loader) (env : Environment) : Except ConfigError Layer :=
  if l.skipVariables then .ok .empty
  else do
    let pageSize ← l.number? env pageSizeBound "PAGE_SIZE".toList
    let maxOutputBytes ← l.number? env countBound "MAX_OUTPUT_BYTES".toList
    let requestTimeout ← l.number? env countBound "REQUEST_TIMEOUT_SECS".toList
    return {
      provider := l.text? env "PROVIDER".toList
      apiKey := (l.text? env "API_KEY".toList).or (env.value? "GEMINI_API_KEY".toList)
      baseUrl := l.text? env "BASE_URL".toList
      pageSize := pageSize
      maxOutputBytes := maxOutputBytes
      requestTimeout := requestTimeout }

def load (l : Loader) (files : Files) (env : Environment) (userHome : Option Text) :
    Except ConfigError Config := do
  let file ← l.fileLayer files env userHome
  let own ← l.variableLayer env
  let config := ((Layer.empty.overlay file).overlay own).applyTo .default
  match config.fault? with
  | some fault => .error (.invalid fault)
  | none => .ok config

end Loader

end PromptLine
