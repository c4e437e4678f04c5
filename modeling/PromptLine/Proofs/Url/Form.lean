import PromptLine.Proofs.Text.Split
import PromptLine.Proofs.Text.Utf8
import PromptLine.Url.Target

namespace PromptLine.Url

def formBytes : Text → Utf8.Bytes
  | '+' :: t => 0x20 :: formBytes t
  | '%' :: a :: b :: t =>
      match Hex.digit? a, Hex.digit? b with
      | some high, some low => UInt8.ofNat (16 * high + low) :: formBytes t
      | _, _ => 0x25 :: formBytes (a :: b :: t)
  | c :: t => String.utf8EncodeChar c ++ formBytes t
  | [] => []

def formField (t : Text) : Text := Utf8.decodeLossy (formBytes t)

def formPair (t : Text) : Text × Text :=
  match Text.cut? '=' t with
  | some (name, value) => (formField name, formField value)
  | none => (formField t, [])

def formPairs (t : Text) : List (Text × Text) :=
  ((Text.splitWhere (· == '&') t).filter (!·.isEmpty)).map formPair

def Target.pairs (t : Target) : List (Text × Text) := (t.query.map formPairs).getD []

end PromptLine.Url
