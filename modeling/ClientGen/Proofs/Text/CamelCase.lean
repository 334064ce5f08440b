import ClientGen.Proofs.Text.Words

namespace ClientGen.Text

-- Beyond ASCII every character counts.
def Wordlike (c : Char) : Prop := isAscii c = true → c.isAlphanum = true

-- A run of code points beyond ASCII that are all characters, or a run of small or of capital ASCII
-- letters.
def isWordlikeRun (first last : Nat) : Bool :=
  (128 ≤ first && (last < 0xD800 || (0xDFFF < first && last < 0x110000))) ||
    (0x41 ≤ first && last ≤ 0x5A) || (0x61 ≤ first && last ≤ 0x7A)

def shiftStays : Nat × Nat × Nat × Nat → Bool
  | (first, last, _, image) => isWordlikeRun image (image + (last - first))

def severalStay (entry : Nat × List Nat) : Bool := entry.2.all fun code => isWordlikeRun code code

theorem ascii_alphanum : ∀ code < 128,
    ((0x41 ≤ code ∧ code ≤ 0x5A) ∨ (0x61 ≤ code ∧ code ≤ 0x7A)) →
      (Char.ofNat code).isAlphanum = true := by
  decide

theorem wordlike_ofNat {first last code : Nat} (run : isWordlikeRun first last = true)
    (above : first ≤ code) (below : code ≤ last) : Wordlike (Char.ofNat code) := by
  simp only [isWordlikeRun, Bool.or_eq_true, Bool.and_eq_true, decide_eq_true_eq] at run
  intro ascii
  have valid : code.isValidChar := by
    simp only [Nat.isValidChar]
    omega
  have same : (Char.ofNat code).toNat = code := by
    rw [Char.ofNat, dif_pos valid]
    rfl
  rw [isAscii, same, decide_eq_true_eq] at ascii
  exact ascii_alphanum code ascii (by omega)

theorem wordlike_image {shifts : Property.Shifts} (stays : shifts.all shiftStays = true)
    {code image : Nat} (found : shifts.image? code = some image) : Wordlike (Char.ofNat image) := by
  simp only [Property.Shifts.image?, Option.map_eq_some_iff] at found
  obtain ⟨⟨first, last, step, start⟩, hit, rfl⟩ := found
  have within := List.find?_some hit
  simp only [Bool.and_eq_true, decide_eq_true_eq] at within
  have run := List.all_eq_true.mp stays _ (List.mem_of_find?_eq_some hit)
  have near : code - first ≤ last - first := by omega
  exact wordlike_ofNat run (Nat.le_add_right _ _) (Nat.add_le_add_left near _)

theorem wordlike_several {table : List (Nat × List Nat)}
    (stays : table.all severalStay = true) {code : Nat} {codes : List Nat}
    (found : table.lookup code = some codes) : ∀ c ∈ codes.map Char.ofNat, Wordlike c := by
  rw [List.forall_mem_map]
  intro image member
  obtain ⟨before, after, rfl, -⟩ := List.lookup_eq_some_iff.mp found
  simp only [List.all_append, List.all_cons, Bool.and_eq_true] at stays
  exact wordlike_ofNat (List.all_eq_true.mp stays.2.1 image member) (Nat.le_refl _) (Nat.le_refl _)

-- Both case mappings have this form: ASCII by rule, a shift, several characters, or no change.
theorem wordlike_mapped {ascii : Char → Char} {shifts : Property.Shifts} {several : List (Nat × List Nat)}
    (asciiStays : ∀ code < 128, (Char.ofNat code).isAlphanum = true →
      (ascii (Char.ofNat code)).isAlphanum = true)
    (shiftsStay : shifts.all shiftStays = true) (listStays : several.all severalStay = true)
    {c : Char} (wordlike : Wordlike c) :
    ∀ d ∈ (if isAscii c then [ascii c]
      else match shifts.image? c.toNat with
        | some code => [Char.ofNat code]
        | none => match several.lookup c.toNat with
          | some codes => codes.map Char.ofNat
          | none => [c]), Wordlike d := by
  by_cases isSmall : isAscii c = true
  · rw [if_pos isSmall, List.forall_mem_singleton]
    have stays := asciiStays c.toNat (of_decide_eq_true isSmall)
    rw [Char.ofNat_toNat] at stays
    exact fun _ => stays (wordlike isSmall)
  · rw [if_neg isSmall]
    cases shifted : shifts.image? c.toNat with
    | some code =>
      rw [List.forall_mem_singleton]
      exact wordlike_image shiftsStay shifted
    | none =>
      cases listed : several.lookup c.toNat with
      | some codes => exact wordlike_several listStays listed
      | none => rwa [List.forall_mem_singleton]

theorem wordlike_lowerChar {c : Char} (wordlike : Wordlike c) : ∀ d ∈ lowerChar c, Wordlike d :=
  wordlike_mapped (by decide) (by decide +kernel) (by decide +kernel) wordlike

theorem wordlike_upperChar {c : Char} (wordlike : Wordlike c) : ∀ d ∈ upperChar c, Wordlike d :=
  wordlike_mapped (by decide) (by decide +kernel) (by decide +kernel) wordlike

theorem wordlike_sigma {c : Char} (sigma : c = 'ς' ∨ c = 'σ') : Wordlike c := by
  obtain rfl | rfl := sigma <;> exact fun ascii => absurd ascii (by decide)

theorem wordlike_lowerFrom {cs : List Char} (wordlike : ∀ c ∈ cs, Wordlike c) (before : List Char) :
    ∀ c ∈ lowerFrom before cs, Wordlike c := by
  induction cs generalizing before with
  | nil => simp [lowerFrom]
  | cons c rest ih =>
    rw [List.forall_mem_cons] at wordlike
    rw [lowerFrom, List.forall_mem_append]
    refine ⟨?_, ih wordlike.2 _⟩
    split
    next =>
      rw [List.forall_mem_singleton]
      exact wordlike_sigma (by split <;> simp)
    next => exact wordlike_lowerChar wordlike.1

theorem wordlike_capitalize {cs : List Char} (wordlike : ∀ c ∈ cs, Wordlike c) :
    ∀ c ∈ capitalize cs, Wordlike c := by
  cases cs with
  | nil => exact wordlike
  | cons c rest =>
    rw [List.forall_mem_cons] at wordlike
    rw [capitalize, List.forall_mem_append]
    exact ⟨wordlike_upperChar wordlike.1, wordlike.2⟩

theorem wordlike_of_alphanumeric {c : Char} (alphanumeric : isAlphanumeric c = true) : Wordlike c := by
  intro ascii
  simpa only [isAlphanumeric, isAlphabetic, isNumeric, ascii, if_true, Char.isAlphanum] using alphanumeric

theorem wordlike_words {s word : List Char} (member : word ∈ words s) : ∀ c ∈ word, Wordlike c :=
  fun c within => wordlike_of_alphanumeric ((isWord_of_mem member).alphanumeric c within)

theorem wordlike_camelCase (s : String) : ∀ c ∈ (camelCase s).toList, Wordlike c := by
  have lowered : ∀ word ∈ words s.toList, ∀ c ∈ lower word, Wordlike c := fun word member =>
    wordlike_lowerFrom (wordlike_words member) []
  rw [camelCase, String.toList_ofList]
  cases split : words s.toList with
  | nil => simp [joinCamel]
  | cons first later =>
    rw [split, List.forall_mem_cons] at lowered
    rw [joinCamel, List.forall_mem_append]
    refine ⟨lowered.1, ?_⟩
    intro c member
    obtain ⟨word, listed, within⟩ := List.mem_flatMap.mp member
    exact wordlike_capitalize (lowered.2 word listed) c within

end ClientGen.Text
