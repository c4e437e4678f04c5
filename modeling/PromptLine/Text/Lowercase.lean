import PromptLine.Text.Basic
import PromptLine.Text.CaseTable

namespace PromptLine

def isCased (c : Char) : Bool := cased.has c

def isCaseIgnorable (c : Char) : Bool := caseIgnorable.has c

namespace Text

def meetsCased : Text → Bool
  | [] => false
  | c :: t => if isCaseIgnorable c then meetsCased t else isCased c

def lowerChar (c : Char) : Text :=
  if c.toNat < 0x80 then [c.toLower]
  else if c.toNat == 0x130 then ['i', Char.ofNat 0x307]
  else [(caseRuns.findSome? (·.lower? c)).getD c]

/-- Lower case of what remains, after the characters `before`, nearest first. A capital sigma that
ends a word becomes the final sigma. -/
def lowerFrom (before : Text) : Text → Text
  | [] => []
  | c :: rest =>
      (if c.toNat == 0x3a3 then
        [Char.ofNat (if meetsCased before && !meetsCased rest then 0x3c2 else 0x3c3)]
      else lowerChar c) ++ lowerFrom (c :: before) rest

def lower (t : Text) : Text := lowerFrom [] t

end Text

end PromptLine
