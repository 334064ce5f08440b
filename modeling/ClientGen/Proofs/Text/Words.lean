import ClientGen.Text.Words

namespace ClientGen.Text

variable {current before cs rest word : List Char} {a b c : Char} {next other : Option Char}

section Steps

theorem wordsFrom_close (a : Char) (before : List Char) :
    wordsFrom (a :: before) [] = [(a :: before).reverse] := rfl

theorem wordsFrom_separator (separates : isAlphanumeric c = false) :
    wordsFrom current (c :: rest) = wordsFrom current [] ++ wordsFrom [] rest := by
  cases current <;> simp [wordsFrom, separates]

theorem wordsFrom_first (counts : isAlphanumeric c = true) :
    wordsFrom [] (c :: rest) = wordsFrom [c] rest := by
  simp [wordsFrom, counts]

theorem wordsFrom_starts (counts : isAlphanumeric b = true)
    (starts : startsWord a b rest.head? = true) :
    wordsFrom (a :: before) (b :: rest) = (a :: before).reverse :: wordsFrom [b] rest := by
  simp [wordsFrom, counts, starts]

theorem wordsFrom_continues (counts : isAlphanumeric b = true)
    (continues : startsWord a b rest.head? = false) :
    wordsFrom (a :: before) (b :: rest) = wordsFrom (b :: a :: before) rest := by
  simp [wordsFrom, counts, continues]

end Steps

theorem flatten_close (current : List Char) : (wordsFrom current []).flatten = current.reverse := by
  cases current with
  | nil => rfl
  | cons a before => rw [wordsFrom_close, List.flatten_singleton]

-- One character is read: at most the pending word is closed, and the character joins what is pending.
theorem wordsFrom_read (counts : isAlphanumeric c = true) (current rest : List Char) :
    ∃ closed front, wordsFrom current (c :: rest) = closed ++ wordsFrom (c :: front) rest ∧
      closed.flatten ++ front.reverse = current.reverse := by
  cases current with
  | nil => exact ⟨[], [], wordsFrom_first counts, rfl⟩
  | cons a before =>
    cases starts : startsWord a c rest.head? with
    | true =>
      refine ⟨[(a :: before).reverse], [], ?_, by simp⟩
      rw [wordsFrom_starts counts starts]
      rfl
    | false =>
      refine ⟨[], a :: before, ?_, by simp⟩
      rw [wordsFrom_continues counts starts]
      rfl

theorem flatten_wordsFrom (current cs : List Char) :
    (wordsFrom current cs).flatten = current.reverse ++ cs.filter isAlphanumeric := by
  induction cs generalizing current with
  | nil => rw [flatten_close, List.filter_nil, List.append_nil]
  | cons c rest ih =>
    cases counts : isAlphanumeric c with
    | false =>
      rw [wordsFrom_separator counts, List.flatten_append, flatten_close, ih]
      simp [counts]
    | true =>
      obtain ⟨closed, front, step, kept⟩ := wordsFrom_read counts current rest
      rw [step, List.flatten_append, ih, ← kept]
      simp [counts]

theorem flatten_words (cs : List Char) : (words cs).flatten = cs.filter isAlphanumeric :=
  flatten_wordsFrom [] cs

section Cuts

-- Between which neighbours a new word begins; `next` is what stands behind them.
def Boundary (a b : Char) (next : Option Char) : Prop :=
  isUppercase b = true ∧ (isLowercase a = true ∨ isNumeric a = true) ∨
  isUppercase b = true ∧ isUppercase a = true ∧ next.any isLowercase = true ∨
  isAlphabetic b = true ∧ isUppercase b = false ∧ isNumeric a = true

instance : Decidable (Boundary a b next) := inferInstanceAs (Decidable (_ ∨ _ ∨ _))

theorem startsWord_iff : startsWord a b next = true ↔ Boundary a b next := by
  cases next <;> cases upper : isUppercase b <;> simp [startsWord, Boundary, upper, or_assoc]

-- When `a` has been read, it is the last of the pending word, and the words before hold all that counts
-- in front of that.
theorem wordsFrom_reached (counts : isAlphanumeric a = true) (current before rest : List Char) :
    ∃ earlier front, wordsFrom current (before ++ a :: rest) = earlier ++ wordsFrom (a :: front) rest ∧
      earlier.flatten ++ front.reverse = current.reverse ++ before.filter isAlphanumeric := by
  induction before generalizing current with
  | nil =>
    obtain ⟨earlier, front, split, whole⟩ := wordsFrom_read counts current rest
    exact ⟨earlier, front, split, by rw [whole, List.filter_nil, List.append_nil]⟩
  | cons c before ih =>
    cases counted : isAlphanumeric c with
    | false =>
      obtain ⟨earlier, front, split, whole⟩ := ih []
      refine ⟨wordsFrom current [] ++ earlier, front, ?_, ?_⟩
      · rw [List.cons_append, wordsFrom_separator counted, split, List.append_assoc]
      · rw [List.flatten_append, flatten_close, List.append_assoc, whole]
        simp [counted]
    | true =>
      obtain ⟨closed, pending, step, kept⟩ := wordsFrom_read counted current (before ++ a :: rest)
      obtain ⟨earlier, front, split, whole⟩ := ih (c :: pending)
      refine ⟨closed ++ earlier, front, ?_, ?_⟩
      · rw [List.cons_append, step, split, List.append_assoc]
      · rw [List.flatten_append, List.append_assoc, whole, ← kept]
        simp [counted]

theorem wordsFrom_pending (a : Char) (before cs : List Char) :
    ∃ more later, wordsFrom (a :: before) cs = ((a :: before).reverse ++ more) :: later := by
  induction cs generalizing a before with
  | nil => exact ⟨[], [], by rw [wordsFrom_close, List.append_nil]⟩
  | cons c rest ih =>
    cases counts : isAlphanumeric c with
    | false =>
      refine ⟨[], wordsFrom [] rest, ?_⟩
      rw [wordsFrom_separator counts, wordsFrom_close, List.append_nil, List.singleton_append]
    | true =>
      cases starts : startsWord a c rest.head? with
      | true => exact ⟨[], wordsFrom [c] rest, by rw [wordsFrom_starts counts starts, List.append_nil]⟩
      | false =>
        obtain ⟨more, later, split⟩ := ih c (a :: before)
        refine ⟨c :: more, later, ?_⟩
        rw [wordsFrom_continues counts starts, split]
        simp

-- The number of the word that holds the character with `n` characters in front of it, counted through
-- all words.
def wordHolding : List String → Nat → Nat
  | [], _ => 0
  | word :: later, n => if n < word.length then 0 else wordHolding later (n - word.length) + 1

theorem length_join_cons (word : String) (left : List String) :
    (String.join (word :: left)).length = word.length + (String.join left).length := by
  rw [String.join_cons, String.length_append]

theorem length_join_ofList (ws : List (List Char)) :
    (String.join (ws.map String.ofList)).length = ws.flatten.length := by
  rw [← String.length_toList, String.toList_join, List.flatMap_map]
  simp [List.flatMap]

theorem wordHolding_lt (left right : List String) {n : Nat} (within : n < (String.join left).length) :
    wordHolding (left ++ right) n < left.length := by
  induction left generalizing n with
  | nil => exact absurd within (Nat.not_lt_zero n)
  | cons word left ih =>
    rw [length_join_cons] at within
    rw [List.cons_append, wordHolding]
    split
    · exact Nat.succ_pos _
    · exact Nat.succ_lt_succ (ih (by omega))

theorem wordHolding_append (left right : List String) (n : Nat) :
    wordHolding (left ++ right) ((String.join left).length + n) = left.length + wordHolding right n := by
  induction left with
  | nil => simp
  | cons word left ih =>
    rw [length_join_cons, List.cons_append, wordHolding, if_neg (by omega)]
    have shift : word.length + (String.join left).length + n - word.length =
        (String.join left).length + n := by omega
    rw [shift, ih, List.length_cons]
    omega

theorem wordHolding_cut (left right : List (List Char)) {n : Nat} (ends : left.flatten.length = n + 1) :
    wordHolding ((left ++ right).map String.ofList) n ≠
      wordHolding ((left ++ right).map String.ofList) (n + 1) := by
  have whole := length_join_ofList left
  rw [List.map_append]
  have within : n < (String.join (left.map String.ofList)).length := by omega
  have last := wordHolding_lt (left.map String.ofList) (right.map String.ofList) within
  have first := wordHolding_append (left.map String.ofList) (right.map String.ofList) 0
  rw [whole, ends, Nat.add_zero] at first
  omega

theorem wordHolding_within (left later : List (List Char)) {n : Nat} (within : n < word.length) :
    wordHolding ((left ++ word :: later).map String.ofList) (left.flatten.length + n) = left.length := by
  rw [List.map_append, ← length_join_ofList, wordHolding_append, List.map_cons, wordHolding,
    String.length_ofList, if_pos within, List.length_map, Nat.add_zero]

theorem wordsOf_cut {s : String} (text : s.toList = before ++ a :: b :: rest)
    (first : isAlphanumeric a = true) (second : isAlphanumeric b = true) :
    wordHolding (wordsOf s) (before.filter isAlphanumeric).length ≠
        wordHolding (wordsOf s) ((before.filter isAlphanumeric).length + 1) ↔
      Boundary a b rest.head? := by
  obtain ⟨earlier, front, split, whole⟩ := wordsFrom_reached first [] before (b :: rest)
  rw [List.reverse_nil, List.nil_append] at whole
  rw [wordsOf, words, text, split, ← startsWord_iff, ← whole]
  cases starts : startsWord a b rest.head? with
  | true =>
    rw [wordsFrom_starts second starts]
    have cut := wordHolding_cut (earlier ++ [(a :: front).reverse]) (wordsFrom [b] rest)
      (n := (earlier.flatten ++ front.reverse).length) (by simp; omega)
    rw [List.append_assoc, List.singleton_append] at cut
    exact ⟨fun _ => rfl, fun _ => cut⟩
  | false =>
    obtain ⟨more, later, pending⟩ := wordsFrom_pending b (a :: front) rest
    rw [wordsFrom_continues second starts, pending, List.length_append, List.length_reverse,
      Nat.add_assoc, wordHolding_within _ _ (by simp), wordHolding_within _ _ (by simp)]
    simp

end Cuts

section Stability

-- No new word begins within the pending word, its last character first, where `next` follows it.
def Unbroken (next : Option Char) : List Char → Prop
  | b :: a :: before => startsWord a b next = false ∧ Unbroken (some b) (a :: before)
  | _ => True

theorem Unbroken.follow (unbroken : Unbroken next current)
    (still : ∀ a b, startsWord a b next = false → startsWord a b other = false) :
    Unbroken other current := by
  match current, unbroken with
  | [], _ | [_], _ => trivial
  | b :: a :: _, ⟨last, front⟩ => exact ⟨still a b last, front⟩

theorem startsWord_end (continues : startsWord a b next = false) : startsWord a b none = false := by
  cases upper : isUppercase b with
  | true =>
    simp only [startsWord, upper, if_true, Bool.or_eq_false_iff] at continues ⊢
    exact ⟨continues.1, Bool.and_false _⟩
  | false =>
    simp only [startsWord, upper, Bool.false_eq_true, if_false] at continues ⊢
    exact continues

theorem startsWord_underscore (a b : Char) : startsWord a b (some '_') = startsWord a b none := by
  have small : isLowercase '_' = false := by decide
  simp [startsWord, small]

structure IsWord (word : List Char) : Prop where
  filled : word ≠ []
  alphanumeric : ∀ c ∈ word, isAlphanumeric c = true
  unbroken : Unbroken none word.reverse

theorem isWord_of_pending (counts : ∀ c ∈ current, isAlphanumeric c = true)
    (unbroken : Unbroken next current) : ∀ word ∈ wordsFrom current [], IsWord word := by
  cases current with
  | nil => exact fun word member => absurd member List.not_mem_nil
  | cons a before =>
    rw [wordsFrom_close, List.forall_mem_singleton]
    refine ⟨by simp, fun c member => counts c (List.mem_reverse.mp member), ?_⟩
    rw [List.reverse_reverse]
    exact unbroken.follow fun _ _ => startsWord_end

theorem isWord_of_mem_wordsFrom (counts : ∀ c ∈ current, isAlphanumeric c = true)
    (unbroken : Unbroken cs.head? current) : ∀ word ∈ wordsFrom current cs, IsWord word := by
  induction cs generalizing current with
  | nil => exact isWord_of_pending counts unbroken
  | cons c rest ih =>
    cases counted : isAlphanumeric c with
    | false =>
      rw [wordsFrom_separator counted, List.forall_mem_append]
      exact ⟨isWord_of_pending counts unbroken, ih (by simp) trivial⟩
    | true =>
      have alone : ∀ word ∈ wordsFrom [c] rest, IsWord word := ih (by simpa using counted) trivial
      cases current with
      | nil => rwa [wordsFrom_first counted]
      | cons a before =>
        cases starts : startsWord a c rest.head? with
        | true =>
          have closed := isWord_of_pending counts unbroken
          rw [wordsFrom_close, List.forall_mem_singleton] at closed
          rw [wordsFrom_starts counted starts, List.forall_mem_cons]
          exact ⟨closed, alone⟩
        | false =>
          rw [wordsFrom_continues counted starts]
          exact ih (List.forall_mem_cons.mpr ⟨counted, counts⟩) ⟨starts, unbroken⟩

theorem isWord_of_mem (member : word ∈ words cs) : IsWord word := by
  have start : Unbroken cs.head? [] := trivial
  exact isWord_of_mem_wordsFrom (by simp) start word member

-- An unbroken text is read without a cut. The induction is on the text from its end.
theorem wordsFrom_unbroken (counts : ∀ c ∈ current, isAlphanumeric c = true)
    (unbroken : Unbroken rest.head? current) :
    wordsFrom [] (current.reverse ++ rest) = wordsFrom current rest := by
  induction current generalizing rest with
  | nil => rfl
  | cons b before ih =>
    rw [List.forall_mem_cons] at counts
    rw [List.reverse_cons, List.append_assoc, List.singleton_append]
    cases before with
    | nil => exact wordsFrom_first counts.1
    | cons a before =>
      have front : Unbroken (b :: rest).head? (a :: before) := unbroken.2
      rw [ih counts.2 front, wordsFrom_continues counts.1 unbroken.1]

theorem IsWord.words_append (isWord : IsWord word) (rest : List Char)
    (still : rest.head? = none ∨ rest.head? = some '_') :
    words (word ++ rest) = wordsFrom word.reverse rest := by
  have unbroken : Unbroken rest.head? word.reverse := by
    apply isWord.unbroken.follow
    intro a b continues
    obtain ends | underscore := still
    · rwa [ends]
    · rwa [underscore, startsWord_underscore]
  have read := wordsFrom_unbroken (fun c member => isWord.alphanumeric c (List.mem_reverse.mp member)) unbroken
  rwa [List.reverse_reverse] at read

theorem IsWord.close (isWord : IsWord word) : wordsFrom word.reverse [] = [word] := by
  simp [wordsFrom, isWord.filled]

theorem words_intercalate {ws : List (List Char)} (areWords : ∀ word ∈ ws, IsWord word) :
    words (['_'].intercalate ws) = ws := by
  induction ws with
  | nil => rfl
  | cons word later ih =>
    rw [List.forall_mem_cons] at areWords
    obtain ⟨isWord, others⟩ := areWords
    cases later with
    | nil =>
      have alone := isWord.words_append [] (.inl rfl)
      rw [List.append_nil, isWord.close] at alone
      rw [List.intercalate_singleton, alone]
    | cons second later =>
      rw [List.intercalate_cons_cons, List.append_assoc, List.singleton_append,
        isWord.words_append _ (.inr rfl), wordsFrom_separator isAlphanumeric_underscore, isWord.close]
      exact congrArg (word :: ·) (ih others)

theorem toList_joined (s : String) :
    ("_".intercalate (wordsOf s)).toList = ['_'].intercalate (words s.toList) := by
  rw [String.toList_intercalate, wordsOf, List.map_map]
  simp

end Stability

theorem characters_split_stably (s : String) :
    "" ∉ wordsOf s ∧
    String.join (wordsOf s) = String.ofList (s.toList.filter isAlphanumeric) ∧
    (∀ before a b rest, s.toList = before ++ a :: b :: rest →
      isAlphanumeric a = true → isAlphanumeric b = true →
      (wordHolding (wordsOf s) (before.filter isAlphanumeric).length ≠
          wordHolding (wordsOf s) ((before.filter isAlphanumeric).length + 1) ↔
        Boundary a b rest.head?)) ∧
    wordsOf ("_".intercalate (wordsOf s)) = wordsOf s := by
  refine ⟨?_, ?_, fun before a b rest => wordsOf_cut, ?_⟩
  · intro member
    obtain ⟨word, listed, empty⟩ := List.mem_map.mp member
    exact (isWord_of_mem listed).filled (String.ofList_inj.mp empty)
  · apply String.toList_inj.mp
    rw [String.toList_join, String.toList_ofList, wordsOf, List.flatMap_map, ← flatten_words]
    simp [List.flatMap]
  · rw [wordsOf, toList_joined, words_intercalate fun word => isWord_of_mem]
    rfl

-- Roman numerals are capitals and numbers at once. An acronym ends in front of a small letter, but not in
-- front of a separator with a small letter behind it.
theorem characters_split_stably_roman :
    wordsOf "ⅧⅨ-HTTPServer AB_c" = ["Ⅷ", "Ⅸ", "HTTP", "Server", "AB", "c"] ∧
    "" ∉ wordsOf "ⅧⅨ-HTTPServer AB_c" ∧
    String.join (wordsOf "ⅧⅨ-HTTPServer AB_c") =
      String.ofList ("ⅧⅨ-HTTPServer AB_c".toList.filter isAlphanumeric) ∧
    isAlphanumeric 'Ⅷ' = true ∧ isAlphanumeric 'Ⅸ' = true ∧
    (wordHolding (wordsOf "ⅧⅨ-HTTPServer AB_c") 0 ≠ wordHolding (wordsOf "ⅧⅨ-HTTPServer AB_c") 1 ↔
      Boundary 'Ⅷ' 'Ⅸ' (some '-')) ∧
    wordsOf ("_".intercalate (wordsOf "ⅧⅨ-HTTPServer AB_c")) = wordsOf "ⅧⅨ-HTTPServer AB_c" := by
  obtain ⟨filled, whole, cut, stable⟩ := characters_split_stably "ⅧⅨ-HTTPServer AB_c"
  have first : isAlphanumeric 'Ⅷ' = true := by decide +kernel
  have second : isAlphanumeric 'Ⅸ' = true := by decide +kernel
  exact ⟨by decide +kernel, filled, whole, first, second, cut [] 'Ⅷ' 'Ⅸ' _ rfl first second, stable⟩

end ClientGen.Text
