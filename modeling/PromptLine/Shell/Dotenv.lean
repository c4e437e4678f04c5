import PromptLine.Config.Files
import PromptLine.Text.AlphanumericTable

namespace PromptLine

namespace Dotenv

inductive Place where
  | plain
  | escape
  | strong
  | strongEscape
  | weak
  | weakEscape
  | blank
  | comment
  deriving DecidableEq, Repr

def Place.next (p : Place) (c : Char) : Place :=
  match p with
  | .plain =>
      if c = '\\' then .escape
      else if c = '"' then .weak
      else if c = '\'' then .strong
      else if isBlank c && c != '\n' && c != '\r' then .blank
      else .plain
  | .blank =>
      if c = '#' then .comment
      else if c = '\\' then .escape
      else if c = '"' then .weak
      else if c = '\'' then .strong
      else .plain
  | .escape => .plain
  | .weak => if c = '\\' then .weakEscape else if c = '"' then .plain else .weak
  | .weakEscape => .weak
  | .strong => if c = '\\' then .strongEscape else if c = '\'' then .plain else .strong
  | .strongEscape => .strong
  | .comment => .comment

def Place.read (p : Place) : Text → Text × Place
  | [] => ([], p)
  | c :: rest =>
      match p.next c with
      | .comment => ([], .comment)
      | q => let (read, last) := q.read rest; (c :: read, last)

def dropLineEnd (t : Text) : Text :=
  if t.getLast? = some '\n' then
    if t.dropLast.getLast? = some '\r' then t.dropLast.dropLast else t.dropLast
  else t

/-- The logical lines of a file, of which `begun` and the place in it have been read; none stands
for a line that cannot be read, behind which there are no others. A line goes on behind its end
inside quotes, and where a blank ends a file; a comment ends it. -/
def logicalLines (begun : Text) (p : Place) : List (Option Text) → List (Option Text)
  | [] => if p = .plain then [] else [none]
  | none :: _ => [none]
  | some line :: rest =>
      if (Text.trimStart (begun ++ line)).head? = some '#' then some [] :: logicalLines [] .plain rest
      else
        let (read, last) := p.read line
        match last with
        | .plain => some (dropLineEnd (begun ++ read)) :: logicalLines [] .plain rest
        | .comment => some (begun ++ read) :: logicalLines [] .plain rest
        | last => logicalLines (begun ++ read) last rest

def lines (begun : Utf8.Bytes) : Utf8.Bytes → List (Option Text)
  | [] => if begun.isEmpty then [] else [Utf8.decode? begun.reverse]
  | b :: rest =>
      if b = 10 then Utf8.decode? (b :: begun).reverse :: lines [] rest
      else lines (b :: begun) rest

def dropMark : Utf8.Bytes → Utf8.Bytes
  | 0xef :: 0xbb :: 0xbf :: rest => rest
  | bytes => bytes

def valueOf (env stored : Environment) (name : Text) : Text :=
  ((env.lookup name).or (stored.lookup name)).getD []

inductive Mode where
  | plain
  | escape (quoted : Bool)
  | strong
  | weak
  | name (quoted : Bool) (seen : Text)
  | braced (quoted : Bool) (seen : Text)
  | behind
  deriving DecidableEq, Repr

def back (quoted : Bool) : Mode := if quoted then .weak else .plain

def Mode.next (valueOf : Text → Text) (m : Mode) (c : Char) : Option (Text × Mode) :=
  match m with
  | .behind =>
      if c = ' ' ∨ c = '\t' then some ([], .behind) else none
  | .escape quoted =>
      if ['\\', '\'', '"', '$', ' '].contains c then some ([c], back quoted)
      else if c = 'n' then some (['\n'], back quoted)
      else none
  | .strong => if c = '\'' then some ([], .plain) else some ([c], .strong)
  | .name quoted seen =>
      if alphanumeric.has c then some ([], .name quoted (c :: seen))
      else if c = '{' ∧ seen.isEmpty then some ([], .braced quoted [])
      else if c = '$' then some (valueOf seen.reverse, .name quoted [])
      else some (valueOf seen.reverse ++ [c], back quoted)
  | .braced quoted seen =>
      if c = '}' then some (valueOf seen.reverse, back quoted)
      else some ([], .braced quoted (c :: seen))
  | .weak =>
      if c = '$' then some ([], .name true [])
      else if c = '"' then some ([], .plain)
      else if c = '\\' then some ([], .escape true)
      else some ([c], .weak)
  | .plain =>
      if c = '$' then some ([], .name false [])
      else if c = '\'' then some ([], .strong)
      else if c = '"' then some ([], .weak)
      else if c = '\\' then some ([], .escape false)
      else if c = ' ' ∨ c = '\t' then some ([], .behind)
      else some ([c], .plain)

def Mode.last (valueOf : Text → Text) : Mode → Option Text
  | .plain => some []
  | .escape quoted => if quoted then none else some []
  | .strong => none
  | .weak => none
  | .name quoted seen => if quoted then none else some (valueOf seen.reverse)
  | .braced _ _ => none
  | .behind => some []

def value? (valueOf : Text → Text) (m : Mode) : Text → Option Text
  | [] => m.last valueOf
  | c :: rest =>
      if m = .behind ∧ c = '#' then some []
      else
        match m.next valueOf c with
        | some (added, m) => (value? valueOf m rest).map (added ++ ·)
        | none => none

def isKeyChar (c : Char) : Bool := c.isAlphanum || c == '_' || c == '.'

def key? (t : Text) : Option (Text × Text) :=
  match t with
  | c :: _ =>
      if c.isAlpha || c == '_' then
        some (t.takeWhile isKeyChar, Text.trimStart (t.dropWhile isKeyChar))
      else none
  | [] => none

def binding? (t : Text) : Option (Text × Text) :=
  match key? t with
  | none => none
  | some (key, '=' :: rest) => some (key, Text.trimStart rest)
  | some (key, rest) =>
      if key = "export".toList then
        match key? rest with
        | some (key, '=' :: rest) => some (key, Text.trimStart rest)
        | _ => none
      else none

inductive Line where
  | nothing
  | binds (key value : Text)
  | wrong
  deriving DecidableEq, Repr

def isNothing (t : Text) : Bool := t.isEmpty || t.head? == some '#'

def Line.ofText (env stored : Environment) (t : Text) : Line :=
  let t := Text.trimStart (Text.trimEnd t)
  if isNothing t then .nothing
  else
    match binding? t with
    | none => .wrong
    | some (key, rest) =>
        if isNothing rest then .binds key []
        else
          match value? (valueOf env stored) .plain rest with
          | some value => .binds key value
          | none => .wrong

def loadLines (env stored : Environment) : List (Option Text) → Environment
  | [] => env
  | none :: _ => env
  | some t :: rest =>
      match Line.ofText env stored t with
      | .nothing => loadLines env stored rest
      | .wrong => env
      | .binds key value =>
          loadLines (if (env.lookup key).isSome then env else env ++ [(key, value)])
            ((key, value) :: stored) rest

def load (env : Environment) (bytes : Utf8.Bytes) : Environment :=
  loadLines env [] (logicalLines [] .plain (lines [] (dropMark bytes)))

end Dotenv

end PromptLine
