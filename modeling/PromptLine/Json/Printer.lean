import PromptLine.Json.Spelling

namespace PromptLine

namespace Json

def quoted (spelling : Text) : Text := '"' :: spelling ++ ['"']

def newline (depth : Nat) : Text := '\n' :: List.replicate (2 * depth) ' '

mutual

def prettyAt (depth : Nat) : Json → Text
  | .null => "null".toList
  | .bool true => "true".toList
  | .bool false => "false".toList
  | .number spelling => spelling
  | .string spelling => quoted spelling
  | .array [] => ['[', ']']
  | .array (item :: items) =>
      '[' :: newline (depth + 1) ++ prettyAt (depth + 1) item ++ prettyItems depth items
  | .object [] => ['{', '}']
  | .object ((key, v) :: members) =>
      '{' :: newline (depth + 1) ++ quoted key ++ [':', ' '] ++ prettyAt (depth + 1) v ++
        prettyMembers depth members

def prettyItems (depth : Nat) : List Json → Text
  | [] => newline depth ++ [']']
  | item :: items =>
      ',' :: newline (depth + 1) ++ prettyAt (depth + 1) item ++ prettyItems depth items

def prettyMembers (depth : Nat) : List (Text × Json) → Text
  | [] => newline depth ++ ['}']
  | (key, v) :: members =>
      ',' :: newline (depth + 1) ++ quoted key ++ [':', ' '] ++ prettyAt (depth + 1) v ++
        prettyMembers depth members

end

def pretty (v : Json) : Text := prettyAt 0 v

end Json

end PromptLine
