import PromptLine.Text.Decimal
import PromptLine.Text.Utf8

namespace PromptLine

namespace Truncation

def marker (omitted : Nat) : Text :=
  "\n[... output truncated, ".toList ++ Decimal.render omitted ++ " bytes omitted]".toList

def truncate (budget : Nat) (output : Text) : Text :=
  if Utf8.size output ≤ budget then output
  else
    let kept := Utf8.fitting budget output
    kept ++ marker (Utf8.size output - Utf8.size kept)

end Truncation

end PromptLine
