import PromptLine.Text.Blank
import PromptLine.Text.Decimal
import PromptLine.Text.Utf8

namespace PromptLine

inductive FileError where
  | notFound
  | notDirectory
  | isDirectory
  | notUtf8
  | invalidPath
  | system (code : Nat) (description : Text)
  deriving DecidableEq, Repr

def FileError.message : FileError → Text
  | .notFound => "No such file or directory (os error 2)".toList
  | .notDirectory => "Not a directory (os error 20)".toList
  | .isDirectory => "Is a directory (os error 21)".toList
  | .notUtf8 => "stream did not contain valid UTF-8".toList
  | .invalidPath => "file name contained an unexpected NUL byte".toList
  | .system code description =>
      description ++ " (os error ".toList ++ Decimal.render code ++ [')']

abbrev Files := Text → Except FileError Utf8.Bytes

namespace Files

def readText (files : Files) (path : Text) : Except FileError Text :=
  match files path with
  | .error e => .error e
  | .ok bytes =>
      match Utf8.decode? bytes with
      | some t => .ok t
      | none => .error .notUtf8

def below (parent name : Text) : Text :=
  if parent.isEmpty || parent.getLast? == some '/' then parent ++ name
  else parent ++ '/' :: name

end Files

abbrev Environment := List (Text × Text)

def Environment.value? (env : Environment) (name : Text) : Option Text :=
  (env.lookup name).filter fun v => !(Text.trim v).isEmpty

end PromptLine
