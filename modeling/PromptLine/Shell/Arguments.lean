import PromptLine.Text.Decimal

namespace PromptLine

namespace Shell

inductive Task where
  | check (command : Text)
  | complete (text : Text) (cursor : Option Nat) (catalog : Option Text) (json : Bool)
  | models (json : Bool)
  | run (command : Text)
  deriving DecidableEq, Repr

inductive Halt where
  | misuse
  | help
  | version
  deriving DecidableEq, Repr

structure Invocation where
  file : Option Text
  task : Task
  deriving DecidableEq, Repr

structure Given where
  texts : List Text := []
  options : List (Text × Text) := []
  flags : List Text := []
  deriving DecidableEq, Repr

structure Form where
  texts : Nat
  options : List (Text × (Text → Bool))
  flags : List Text

def looksLikeOption (a : Text) : Bool := a.head? == some '-' && a != ['-']

namespace Given

def withTexts (g : Given) (f : Form) (texts : List Text) : Except Halt Given :=
  if g.texts.length + texts.length ≤ f.texts then .ok { g with texts := g.texts ++ texts }
  else .error .misuse

def withOption (g : Given) (f : Form) (name value : Text) : Except Halt Given :=
  match f.options.lookup name with
  | none => .error .misuse
  | some valid =>
      if valid value && (g.options.lookup name).isNone then
        .ok { g with options := g.options ++ [(name, value)] }
      else .error .misuse

def withFlag (g : Given) (f : Form) (name : Text) : Except Halt Given :=
  if f.flags.contains name && !g.flags.contains name then
    .ok { g with flags := g.flags ++ [name] }
  else .error .misuse

def collect (f : Form) (g : Given) : List Text → Except Halt Given
  | [] => .ok g
  | a :: rest =>
      if a = ['-', '-'] then g.withTexts f rest
      else
        match Text.stripStart? ['-', '-'] a with
        | some long =>
            match Text.cut? '=' long with
            | some (name, value) =>
                match g.withOption f name value with
                | .ok g => collect f g rest
                | .error h => .error h
            | none =>
                if long = "help".toList then .error .help
                else if (f.options.lookup long).isSome then
                  match rest with
                  | [] => .error .misuse
                  | value :: rest =>
                      if looksLikeOption value then .error .misuse
                      else
                        match g.withOption f long value with
                        | .ok g => collect f g rest
                        | .error h => .error h
                else
                  match g.withFlag f long with
                  | .ok g => collect f g rest
                  | .error h => .error h
        | none =>
            if looksLikeOption a then .error (if a.tail.head? = some 'h' then .help else .misuse)
            else
              match g.withTexts f [a] with
              | .ok g => collect f g rest
              | .error h => .error h

def option? (g : Given) (name : Text) : Option Text := g.options.lookup name

end Given

def configOption : Text := "config".toList

def cursorOption : Text := "cursor".toList

def catalogOption : Text := "catalog".toList

def jsonFlag : Text := "json".toList

def isPath (value : Text) : Bool := !value.isEmpty

def cursorOf? (value : Text) : Option Nat := Decimal.natural? UInt64.size value

def forms : List (Text × Form) := [
  ("check".toList, ⟨1, [(configOption, isPath)], []⟩),
  ("complete".toList, ⟨1, [(configOption, isPath), (cursorOption, fun v => (cursorOf? v).isSome),
    (catalogOption, isPath)], [jsonFlag]⟩),
  ("models".toList, ⟨0, [(configOption, isPath)], [jsonFlag]⟩),
  ("run".toList, ⟨1, [(configOption, isPath)], []⟩)]

def Task.ofGiven? (name : Text) (g : Given) : Option Task :=
  let json := g.flags.contains jsonFlag
  match g.texts with
  | [] => if name = "models".toList then some (.models json) else none
  | [text] =>
      if name = "check".toList then some (.check text)
      else if name = "run".toList then some (.run text)
      else if name = "complete".toList then
        some (.complete text ((g.option? cursorOption).bind cursorOf?) (g.option? catalogOption) json)
      else none
  | _ => none

namespace Invocation

def ofTask (name : Text) (args : List Text) : Except Halt Invocation :=
  match forms.lookup name with
  | none => .error .misuse
  | some form =>
      match Given.collect form {} args with
      | .error h => .error h
      | .ok g =>
          match Task.ofGiven? name g with
          | some t => .ok ⟨g.option? configOption, t⟩
          | none => .error .misuse

def settle (file last : Option Text) : Except Halt (Option Text) :=
  match last with
  | none => .ok file
  | some path => if isPath path && file.isNone then .ok (some path) else .error .misuse

def halt (file last : Option Text) (h : Halt) : Except Halt Invocation :=
  match settle file last with
  | .ok _ => .error h
  | .error e => .error e

def ofHelp (args : List Text) : Halt :=
  match args with
  | [] => .help
  | [name] => if (forms.lookup name).isSome || name == "help".toList then .help else .misuse
  | _ => .misuse

/-- Reads the arguments in front of the name of a task, where only the configuration file can be
given, and then the others. The file given last, `last`, is looked at when the next argument of
this kind comes, or behind all that belongs to the task. One given there counts more. -/
def read (file last : Option Text) : List Text → Except Halt Invocation
  | [] => .error .misuse
  | a :: rest =>
      match Text.stripStart? ['-', '-'] a with
      | some long =>
          match Text.cut? '=' long with
          | some (name, value) =>
              if name = configOption then
                match settle file last with
                | .error h => .error h
                | .ok file =>
                    match settle file (some value) with
                    | .error h => .error h
                    | .ok file => read file none rest
              else .error .misuse
          | none =>
              if long = configOption then
                match settle file last, rest with
                | .error h, _ => .error h
                | .ok _, [] => .error .misuse
                | .ok file, value :: rest =>
                    if looksLikeOption value then .error .misuse else read file (some value) rest
              else if long = "help".toList then halt file last .help
              else if long = "version".toList then halt file last .version
              else .error .misuse
      | none =>
          if looksLikeOption a then
            match a.tail.head? with
            | some 'h' => halt file last .help
            | some 'V' => halt file last .version
            | _ => .error .misuse
          else if a = "help".toList then .error (ofHelp rest)
          else
            match ofTask a rest with
            | .error h => .error h
            | .ok own =>
                match settle file last with
                | .error h => .error h
                | .ok file => .ok { own with file := own.file.or file }

def ofArguments (args : List Text) : Except Halt Invocation := read none none args

end Invocation

end Shell

end PromptLine
