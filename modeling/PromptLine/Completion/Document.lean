import PromptLine.Catalog.Document
import PromptLine.Completion.Candidate

namespace PromptLine

def Extent.toJson (e : Extent) : Json :=
  .object [("start".toList, .ofNat e.start), ("end".toList, .ofNat e.stop)]

def Context.toJson (c : Context) : Json :=
  .object (
    [("stage".toList, Json.ofText c.stage.name),
      ("prefix".toList, Json.ofText c.typed),
      ("replace_range".toList, c.replaces.toJson)] ++
    Json.memberOfText? "provider".toList c.provider ++
    Json.memberOfText? "model".toList c.model)

def Candidate.toJson (c : Candidate) : Json :=
  .object (
    [("label".toList, Json.ofText c.label),
      ("insert_text".toList, Json.ofText c.insert),
      ("replace_range".toList, c.replaces.toJson)] ++
    Json.memberOfText? "detail".toList c.detail)

def Completion.toJson (c : Completion) : Json :=
  .object [
    ("context".toList, c.context.toJson),
    ("candidates".toList, .array (c.candidates.map Candidate.toJson))]

end PromptLine
