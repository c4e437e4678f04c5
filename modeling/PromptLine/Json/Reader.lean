import PromptLine.Json.Token

namespace PromptLine

namespace Json

def ofToken? : Token → Option Json
  | .word t =>
      if t = "null".toList then some .null
      else if t = "true".toList then some (.bool true)
      else if t = "false".toList then some (.bool false)
      else none
  | .number t => if isNumber t then some (.number t) else none
  | .string t => some (.string t)
  | _ => none

inductive Frame where
  | array (items : List Json)
  | object (members : List (Text × Json)) (key : Text)

inductive Expect where
  | value
  | firstItem
  | firstKey
  | key (members : List (Text × Json))
  | colon (members : List (Text × Json)) (key : Text)
  | after (v : Json)

def build : Expect → List Frame → List Token → Option Json
  | .after v, [], [] => some v
  | _, _, [] => none
  | .value, fs, t :: rest =>
      match t with
      | .openArray => build .firstItem fs rest
      | .openObject => build .firstKey fs rest
      | t =>
          match ofToken? t with
          | some v => build (.after v) fs rest
          | none => none
  | .firstItem, fs, t :: rest =>
      match t with
      | .closeArray => build (.after (.array [])) fs rest
      | .openArray => build .firstItem (.array [] :: fs) rest
      | .openObject => build .firstKey (.array [] :: fs) rest
      | t =>
          match ofToken? t with
          | some v => build (.after v) (.array [] :: fs) rest
          | none => none
  | .firstKey, fs, t :: rest =>
      match t with
      | .closeObject => build (.after (.object [])) fs rest
      | .string key => build (.colon [] key) fs rest
      | _ => none
  | .key members, fs, t :: rest =>
      match t with
      | .string key => build (.colon members key) fs rest
      | _ => none
  | .colon members key, fs, t :: rest =>
      match t with
      | .colon => build .value (.object members key :: fs) rest
      | _ => none
  | .after v, .array items :: fs, t :: rest =>
      match t with
      | .comma => build .value (.array (v :: items) :: fs) rest
      | .closeArray => build (.after (.array (v :: items).reverse)) fs rest
      | _ => none
  | .after v, .object members key :: fs, t :: rest =>
      match t with
      | .comma => build (.key ((key, v) :: members)) fs rest
      | .closeObject => build (.after (.object ((key, v) :: members).reverse)) fs rest
      | _ => none
  | .after _, [], _ :: _ => none

def read? (t : Text) : Option Json := (Token.scan .between t).bind (build .value [])

end Json

end PromptLine
