import ClientGen.Text.Segment
import Mathlib.Data.List.TakeWhile

namespace ClientGen.Text

-- `last` is what follows the last slash of a text, or all of the text if it has none.
def EndsIn (whole last : String) : Prop :=
  '/' ∉ last.toList ∧ (whole = last ∨ ∃ before, whole = before ++ "/" ++ last)

theorem afterLastSlash_free (cs : List Char) : '/' ∉ afterLastSlash cs := by
  intro member
  have kept := List.mem_takeWhile_imp (List.mem_reverse.mp member)
  simp at kept

theorem afterLastSlash_parts (cs : List Char) :
    afterLastSlash cs = cs ∨ ∃ before, cs = before ++ '/' :: afterLastSlash cs := by
  have parts := List.takeWhile_append_dropWhile (p := (· != '/')) (l := cs.reverse)
  have whole : cs = (cs.reverse.dropWhile (· != '/')).reverse ++ afterLastSlash cs := by
    rw [afterLastSlash, ← List.reverse_append, parts, List.reverse_reverse]
  cases before : cs.reverse.dropWhile (· != '/') with
  | nil =>
    rw [before] at whole
    exact .inl whole.symm
  | cons c rest =>
    have slash : c = '/' := by
      have stops := List.head?_dropWhile_not (· != '/') cs.reverse
      simpa [before] using stops
    rw [before, slash, List.reverse_cons, List.append_assoc] at whole
    exact .inr ⟨rest.reverse, whole⟩

theorem endsIn_lastSegment (s : String) : EndsIn s (lastSegment s) := by
  refine ⟨?_, ?_⟩
  · rw [lastSegment, String.toList_ofList]
    exact afterLastSlash_free s.toList
  · rcases afterLastSlash_parts s.toList with whole | ⟨before, parts⟩
    · left
      rw [lastSegment, whole, String.ofList_toList]
    · right
      refine ⟨String.ofList before, ?_⟩
      rw [← String.toList_inj, parts]
      simp [lastSegment]

theorem afterLastSlash_append (before rest : List Char) :
    afterLastSlash (before ++ '/' :: rest) = afterLastSlash rest := by
  simp only [afterLastSlash, List.reverse_append, List.reverse_cons, List.append_assoc,
    List.singleton_append, List.takeWhile_append]
  split
  · rename_i whole
    have all := (List.takeWhile_prefix (· != '/')).eq_of_length whole
    rw [all, List.takeWhile_cons_of_neg (by decide), List.append_nil]
  · rfl

theorem lastSegment_append (before rest : String) :
    lastSegment (before ++ "/" ++ rest) = lastSegment rest := by
  have characters : (before ++ "/" ++ rest).toList = before.toList ++ '/' :: rest.toList := by simp
  rw [lastSegment, characters, afterLastSlash_append]
  rfl

theorem lastSegment_free {s : String} (free : '/' ∉ s.toList) : lastSegment s = s := by
  have whole : s.toList.reverse.takeWhile (· != '/') = s.toList.reverse := by
    rw [List.takeWhile_eq_self_iff]
    intro c member
    have apart : c ≠ '/' := fun same => free (same ▸ List.mem_reverse.mp member)
    exact bne_iff_ne.mpr apart
  rw [lastSegment, afterLastSlash, whole, List.reverse_reverse, String.ofList_toList]

theorem EndsIn.eq_lastSegment {whole last : String} (ends : EndsIn whole last) : last = lastSegment whole := by
  obtain ⟨free, same | ⟨before, parts⟩⟩ := ends
  · rw [same, lastSegment_free free]
  · rw [parts, lastSegment_append, lastSegment_free free]

end ClientGen.Text
