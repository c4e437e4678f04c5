namespace PromptLine

abbrev Spans := List (Nat × Nat)

def Spans.has (s : Spans) (c : Char) : Bool :=
  s.any fun (first, last) => first ≤ c.toNat && c.toNat ≤ last

end PromptLine
