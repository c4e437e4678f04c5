import PromptLine.Url.Encoding

namespace PromptLine

namespace Url

def isSeparator (c : Char) : Bool := c == '/' || c == '\\'

def dropDot? : Text → Option Text
  | '.' :: t => some t
  | '%' :: '2' :: 'e' :: t => some t
  | '%' :: '2' :: 'E' :: t => some t
  | _ => none

def isOneDot (segment : Text) : Bool := dropDot? segment == some []

def isTwoDots (segment : Text) : Bool := (dropDot? segment).bind dropDot? == some []

def walk (done : List Text) : List Text → List Text
  | [] => done
  | segment :: rest =>
      if isTwoDots segment then walk (done.dropLast ++ if rest.isEmpty then [[]] else []) rest
      else if isOneDot segment then walk (done ++ if rest.isEmpty then [[]] else []) rest
      else walk (done ++ [percent pathSet segment]) rest

def pathOf (t : Text) : Text :=
  '/' :: Text.join ['/'] (walk [] (Text.splitWhere isSeparator (t.drop 1)))

structure Target where
  path : Text
  query : Option Text
  deriving DecidableEq, Repr

namespace Target

def render (t : Target) : Text :=
  match t.query with
  | some query => t.path ++ '?' :: query
  | none => t.path

def withForm (t : Target) (pairs : List (Text × Text)) : Target :=
  let query := match t.query with
    | some (c :: rest) => c :: rest ++ '&' :: form pairs
    | _ => form pairs
  { t with query := some query }

def ofRest (t : Text) : Target :=
  let beforeFragment := t.takeWhile (· != '#')
  match Text.cut? '?' beforeFragment with
  | some (path, query) => ⟨pathOf path, some (percent querySet query)⟩
  | none => ⟨pathOf beforeFragment, none⟩

def endsHost (c : Char) : Bool := isSeparator c || c == '?' || c == '#'

def leads (c : Char) : Bool := c.toNat ≤ 0x20

def counts (c : Char) : Bool := c != '\n' && c != '\r' && c != '\t'

def stripScheme? (scheme t : Text) : Option Text :=
  if (t.take scheme.length).map Char.toLower = scheme then some (t.drop scheme.length) else none

/-- The target of a web address with a host. Which hosts, ports and lengths a request can be sent to
is not for the target to say. -/
def ofAddress? (address : Text) : Option Target :=
  let t := (address.dropWhile leads).filter counts
  match (stripScheme? "http:".toList t).or (stripScheme? "https:".toList t) with
  | none => none
  | some rest =>
      let rest := rest.dropWhile isSeparator
      if (rest.takeWhile (!endsHost ·)).isEmpty then none
      else some (ofRest (rest.dropWhile (!endsHost ·)))

end Target

end Url

end PromptLine
