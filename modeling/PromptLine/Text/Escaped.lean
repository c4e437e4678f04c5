import PromptLine.Text.Basic
import PromptLine.Text.Hex
import PromptLine.Text.PrintTable

namespace PromptLine

def isPrintable (c : Char) : Bool := !unprintable.has c

namespace Escaped

def char (c : Char) : Text :=
  if c = '"' then ['\\', '"']
  else if c = '\\' then ['\\', '\\']
  else if c = '\n' then ['\\', 'n']
  else if c = '\r' then ['\\', 'r']
  else if c = '\t' then ['\\', 't']
  else if c.toNat = 0 then ['\\', '0']
  else if graphemeExtend.has c || !isPrintable c then
    ['\\', 'u', '{'] ++ Hex.render c.toNat ++ ['}']
  else [c]

def quoted (t : Text) : Text := '"' :: t.flatMap char ++ ['"']

end Escaped

end PromptLine
