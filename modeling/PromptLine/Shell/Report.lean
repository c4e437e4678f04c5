import PromptLine.Text.Decimal

namespace PromptLine

namespace Shell

structure Report where
  message : Text
  causes : List Text
  deriving DecidableEq, Repr

namespace Report

def hang (margin t : Text) : Text :=
  t.flatMap fun c => if c = '\n' then c :: margin else [c]

def numbered (i : Nat) (cause : Text) : Text :=
  "    ".toList ++ Decimal.render i ++ ": ".toList ++ hang (List.replicate 7 ' ') cause

def numberedFrom (i : Nat) : List Text → List Text
  | [] => []
  | cause :: rest => numbered i cause :: numberedFrom (i + 1) rest

def causeLines : List Text → List Text
  | [] => []
  | [cause] => [List.replicate 4 ' ' ++ hang (List.replicate 4 ' ') cause]
  | causes => numberedFrom 0 causes

def render (r : Report) : Text :=
  "Error: ".toList ++ r.message ++
    (if r.causes.isEmpty then []
    else "\n\nCaused by:\n".toList ++ Text.join ['\n'] (causeLines r.causes)) ++ ['\n']

end Report

end Shell

end PromptLine
