import ClientGen.FreshName
import Mathlib.Data.List.Induction

namespace ClientGen

theorem numberedName_injective {name : String} {i j : Nat}
    (same : numberedName name i = numberedName name j) : i = j := by
  have digits : (toString i).toList = (toString j).toList := by
    have lists := congrArg String.toList same
    simp only [numberedName, String.toList_append] at lists
    exact List.append_cancel_left lists
  simp only [Nat.toString_eq_repr, Nat.toList_repr] at digits
  have read := congrArg (Nat.ofDigitChars 10 · 0) digits
  simpa only [Nat.ofDigitChars_ten_toDigits] using read

theorem numberedName_ne (name : String) (k : Nat) : numberedName name k ≠ name := by
  intro same
  have lengths := congrArg String.length same
  simp only [numberedName, String.length_append] at lengths
  have : "_".length = 1 := rfl
  omega

-- The name is itself among the taken ones. If all numbers up to their count were taken as well,
-- that would be one name more than there are.
theorem exists_free_number {name : String} {taken : List String} (used : name ∈ taken) :
    ∃ i < taken.length, numberedName name (i + 1) ∉ taken := by
  apply Classical.byContradiction
  intro none
  let names := name :: (List.range taken.length).map fun i => numberedName name (i + 1)
  have nodup : names.Nodup := by
    refine List.nodup_cons.mpr ⟨?_, ?_⟩
    · intro member
      obtain ⟨i, _, same⟩ := List.mem_map.mp member
      exact numberedName_ne name _ same
    · refine List.Pairwise.map _ ?_ List.nodup_range
      intro i j different same
      exact different (Nat.succ.inj (numberedName_injective same))
  have within : names ⊆ taken := by
    intro candidate member
    rcases List.mem_cons.mp member with rfl | numbered
    · exact used
    · obtain ⟨i, bound, rfl⟩ := List.mem_map.mp numbered
      apply Classical.byContradiction
      intro free
      exact none ⟨i, List.mem_range.mp bound, free⟩
  have count := nodup.length_le_of_subset within
  simp only [names, List.length_cons, List.length_map, List.length_range] at count
  omega

theorem freshName_of_free {name : String} {taken : List String} (free : name ∉ taken) :
    freshName name taken = name := if_pos free

theorem freshName_of_taken {name : String} {taken : List String} (used : name ∈ taken) :
    ∃ k, 1 ≤ k ∧ k ≤ taken.length ∧ freshName name taken = numberedName name k ∧
      numberedName name k ∉ taken ∧ ∀ j, 1 ≤ j → j < k → numberedName name j ∈ taken := by
  have fresh : freshName name taken = (((List.range taken.length).map fun i =>
      numberedName name (i + 1)).find? (· ∉ taken)).getD name := if_neg (not_not_intro used)
  rw [List.find?_map] at fresh
  cases found : (List.range taken.length).find? ((fun c => decide (c ∉ taken)) ∘ fun i =>
      numberedName name (i + 1)) with
  | none =>
    obtain ⟨i, bound, free⟩ := exists_free_number used
    have refused := List.find?_eq_none.mp found i (List.mem_range.mpr bound)
    simp [free] at refused
  | some i =>
    obtain ⟨chosen, bound, before⟩ := List.find?_range_eq_some.mp found
    rw [found, Option.map_some, Option.getD_some] at fresh
    refine ⟨i + 1, by omega, List.mem_range.mp bound, fresh, by simpa using chosen, ?_⟩
    intro j positive smaller
    have earlier := before (j - 1) (by omega)
    have shift : j - 1 + 1 = j := by omega
    simpa [shift] using earlier

theorem freshName_not_mem (name : String) (taken : List String) :
    freshName name taken ∉ taken := by
  by_cases used : name ∈ taken
  · obtain ⟨k, _, _, same, free, _⟩ := freshName_of_taken used
    rw [same]
    exact free
  · rw [freshName_of_free used]
    exact used

theorem freshName_form (name : String) (taken : List String) :
    freshName name taken = name ∨ ∃ k, 1 ≤ k ∧ freshName name taken = numberedName name k := by
  by_cases used : name ∈ taken
  · obtain ⟨k, positive, _, same, _⟩ := freshName_of_taken used
    exact .inr ⟨k, positive, same⟩
  · exact .inl (freshName_of_free used)

-- A name with as many equal names before it as the number tells.
def occurrence (name : String) : Nat → String
  | 0 => name
  | k + 1 => numberedName name (k + 1)

theorem occurrence_of_pos (name : String) {k : Nat} (positive : 1 ≤ k) :
    occurrence name k = numberedName name k := by
  cases k with
  | zero => exact absurd positive (by decide)
  | succ => rfl

theorem freshName_occurrence (name : String) (taken : List String) :
    ∃ k, freshName name taken = occurrence name k ∧ occurrence name k ∉ taken ∧
      ∀ j < k, occurrence name j ∈ taken := by
  by_cases used : name ∈ taken
  · obtain ⟨k, positive, _, same, free, before⟩ := freshName_of_taken used
    rw [← occurrence_of_pos name positive] at same free
    refine ⟨k, same, free, ?_⟩
    intro j less
    cases j with
    | zero => exact used
    | succ j => exact before (j + 1) (Nat.succ_pos j) less
  · exact ⟨0, freshName_of_free used, used, fun j less => absurd less (Nat.not_lt_zero j)⟩

-- The search with no bound: `name`, `name_1`, `name_2`, … from number `k` on, until one is free. The
-- answer is there only if the search ends.
inductive Search (name : String) (taken : List String) : Nat → String → Prop where
  | free {k : Nat} (free : occurrence name k ∉ taken) : Search name taken k (occurrence name k)
  | taken {k : Nat} {answer : String} (used : occurrence name k ∈ taken)
      (later : Search name taken (k + 1) answer) : Search name taken k answer

section Searching

variable {name answer other : String} {taken : List String} {k : Nat}

theorem Search.unique (first : Search name taken k answer) (second : Search name taken k other) :
    answer = other := by
  induction first with
  | free free =>
    cases second with
    | free => rfl
    | taken used => exact absurd used free
  | taken used _ ih =>
    cases second with
    | free free => exact absurd used free
    | taken _ later => exact ih later

theorem search_reaches (start steps : Nat) (free : occurrence name (start + steps) ∉ taken)
    (before : ∀ j, start ≤ j → j < start + steps → occurrence name j ∈ taken) :
    Search name taken start (occurrence name (start + steps)) := by
  induction steps generalizing start with
  | zero => exact .free free
  | succ steps ih =>
    have shift : start + (steps + 1) = start + 1 + steps := by omega
    rw [shift] at free before ⊢
    refine .taken (before start (Nat.le_refl _) (by omega)) (ih (start + 1) free ?_)
    intro j above below
    exact before j (by omega) below

end Searching

theorem search_freshName (name : String) (taken : List String) :
    Search name taken 0 (freshName name taken) := by
  obtain ⟨k, same, free, before⟩ := freshName_occurrence name taken
  have reached := search_reaches 0 k (by rwa [Nat.zero_add])
    (fun j _ less => before j (by rwa [Nat.zero_add] at less))
  rwa [Nat.zero_add, ← same] at reached

theorem freshNames_snoc (names : List String) (name : String) :
    freshNames (names ++ [name]) = freshNames names ++ [freshName name (freshNames names)] := by
  simp [freshNames]

theorem length_freshNames (names : List String) : (freshNames names).length = names.length := by
  induction names using List.reverseRecOn with
  | nil => rfl
  | append_singleton names name ih => simp [freshNames_snoc, ih]

theorem getElem?_freshNames (names : List String) (i : Nat) :
    (freshNames names)[i]? =
      names[i]?.map fun name => freshName name ((freshNames names).take i) := by
  induction names using List.reverseRecOn with
  | nil => simp [freshNames]
  | append_singleton names name ih =>
    have count := length_freshNames names
    rw [freshNames_snoc]
    rcases Nat.lt_trichotomy i names.length with earlier | rfl | beyond
    · have here : i < (freshNames names).length := by omega
      rw [List.getElem?_append_left here, List.getElem?_append_left earlier, ih,
        List.take_append_of_le_length (Nat.le_of_lt here)]
    · simp [← count]
    · rw [List.getElem?_eq_none (by simp; omega), List.getElem?_eq_none (by simp; omega)]
      rfl

theorem nodup_freshNames (names : List String) : (freshNames names).Nodup := by
  induction names using List.reverseRecOn with
  | nil => exact List.nodup_nil
  | append_singleton names name ih =>
    rw [freshNames_snoc, List.nodup_append]
    refine ⟨ih, List.pairwise_singleton _ _, ?_⟩
    intro done member last isLast same
    rw [List.mem_singleton] at isLast
    rw [same, isLast] at member
    exact freshName_not_mem name (freshNames names) member

theorem freshName_least (name : String) (taken names : List String) :
    (∀ answer, Search name taken 0 answer ↔ answer = freshName name taken) ∧
    freshName name taken ∉ taken ∧
    (freshName name taken = name ↔ name ∉ taken) ∧
    (name ∈ taken ↔ ∃ k, 1 ≤ k ∧ k ≤ taken.length ∧ freshName name taken = numberedName name k ∧
      numberedName name k ∉ taken ∧ ∀ j, 1 ≤ j → j < k → numberedName name j ∈ taken) ∧
    (∀ i, (freshNames names)[i]? =
      names[i]?.map fun next => freshName next ((freshNames names).take i)) ∧
    (freshNames names).Nodup := by
  have ends := search_freshName name taken
  refine ⟨?_, freshName_not_mem name taken, ⟨?_, freshName_of_free⟩, ⟨freshName_of_taken, ?_⟩,
    getElem?_freshNames names, nodup_freshNames names⟩
  · intro answer
    constructor
    · exact fun search => search.unique ends
    · rintro rfl
      exact ends
  · intro same used
    exact freshName_not_mem name taken (by rwa [same])
  · rintro ⟨k, _, _, same, _⟩
    apply Classical.byContradiction
    intro free
    rw [freshName_of_free free] at same
    exact numberedName_ne name k same.symm

end ClientGen
