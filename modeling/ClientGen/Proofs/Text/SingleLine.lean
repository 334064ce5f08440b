import ClientGen.Text.SingleLine

namespace ClientGen.Text

def SingleLine (s : String) : Prop := '\r' ∉ s.toList ∧ '\n' ∉ s.toList

instance (s : String) : Decidable (SingleLine s) := inferInstanceAs (Decidable (_ ∧ _))

theorem singleLine_single (s : String) : SingleLine (singleLine s) := by
  refine ⟨?_, ?_⟩ <;> intro member
  · exact (mem_singleLine.mp member).2.1 rfl
  · exact (mem_singleLine.mp member).2.2 rfl

theorem singleLine_of_single {s : String} (single : SingleLine s) : singleLine s = s := by
  have kept : s.toList.filter (fun c => !isLineBreak c) = s.toList := by
    apply List.filter_eq_self.mpr
    intro c member
    have apart : c ≠ '\r' ∧ c ≠ '\n' :=
      ⟨fun same => single.1 (same ▸ member), fun same => single.2 (same ▸ member)⟩
    simpa [isLineBreak] using apart
  rw [singleLine, kept, String.ofList_toList]

theorem singleLine_singleLine (s : String) : singleLine (singleLine s) = singleLine s :=
  singleLine_of_single (singleLine_single s)

end ClientGen.Text
