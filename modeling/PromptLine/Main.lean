import PromptLine.Shell.Run

namespace PromptLine

namespace Shell

def fileErrorOf : IO.Error → FileError
  | .noFileOrDirectory .. => .notFound
  | .inappropriateType _ code _ => if code = 21 then .isDirectory else .notDirectory
  | .permissionDenied .. => .system 13 "Permission denied".toList
  | _ => .system 5 "Input/output error".toList

def openPath (path : String) : IO (Except FileError Utf8.Bytes) := do
  try
    let bytes ← IO.FS.readBinFile path
    return .ok bytes.toList
  catch e => return .error (fileErrorOf e)

def environmentOf (block : Utf8.Bytes) : Environment :=
  (block.splitBy fun b _ => b != 0).filterMap fun entry =>
    (Utf8.decode? (entry.filter (· != 0))).bind (Text.cut? '=')

def readEnvironment : IO Environment := do
  let block ← IO.FS.readBinFile "/proc/self/environ"
  return environmentOf block.toList

def readDepth : IO Nat := do
  let path := (toString (← IO.currentDir)).toList
  return ((Text.splitWhere (· == '/') path).filter (!·.isEmpty)).length

def pathsUpwards (name : Text) (depth : Nat) : List Text :=
  (List.range (depth + 1)).map fun up => (List.replicate up "../".toList).flatten ++ name

def pathsOf (h : Host) (args : List Text) : List Text :=
  match Invocation.ofArguments args with
  | .error _ => []
  | .ok i =>
      let loader : Loader := { file := i.file }
      let config := (loader.chosenFile? h.environment h.userHome).map Prod.fst
      let catalog := match i.task with
        | .complete _ _ catalog _ => catalog
        | _ => none
      config.toList ++ catalog.toList

def openPaths (paths : List Text) : IO Files := do
  let opened ← paths.mapM fun path => do return (path, ← openPath (String.ofList path))
  return fun path => (opened.lookup path).getD (.error .notFound)

def report (e : Ending) : IO UInt32 := do
  IO.print (String.ofList e.output)
  IO.eprint (String.ofList e.errors)
  return UInt32.ofNat e.code

end Shell

end PromptLine

open PromptLine Shell in
/-- Runs without a connection to a backend: what needs one fails as a network error. -/
def main (args : List String) : IO UInt32 := do
  let args := args.map String.toList
  let environment ← readEnvironment
  let depth ← readDepth
  let dotenv := pathsUpwards ".env".toList depth
  let host : Host := ⟨← openPaths dotenv, depth, environment, none⟩
  let paths := pathsOf host.withDotenv args
  let host := { host with files := ← openPaths (dotenv ++ paths) }
  match (program? host args Backend.offline).1 with
  | some ending => report ending
  | none => report .misused
