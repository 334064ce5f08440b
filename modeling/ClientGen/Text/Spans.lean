namespace ClientGen.Text

abbrev Spans := List (Nat × Nat × Nat)

def Spans.contains (spans : Spans) (code : Nat) : Bool :=
  spans.any fun (first, last, step) => first ≤ code && code ≤ last && (code - first) % step == 0

end ClientGen.Text
