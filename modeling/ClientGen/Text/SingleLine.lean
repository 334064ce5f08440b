namespace ClientGen.Text

def isLineBreak (c : Char) : Bool := c == '\r' || c == '\n'

def singleLine (s : String) : String := String.ofList (s.toList.filter fun c => !isLineBreak c)

theorem mem_singleLine {s : String} {c : Char} :
    c ∈ (singleLine s).toList ↔ c ∈ s.toList ∧ c ≠ '\r' ∧ c ≠ '\n' := by
  simp [singleLine, isLineBreak]

end ClientGen.Text
