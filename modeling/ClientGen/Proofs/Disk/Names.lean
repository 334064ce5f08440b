import ClientGen.Disk.Path

namespace ClientGen.Path

variable {path base child : Path} {name : String}

def IsName (name : String) : Prop := name ≠ "" ∧ '/' ∉ name.toList

theorem splitNames_slash (current cs rest : List Char) :
    splitNames current (cs ++ '/' :: rest) = splitNames current cs ++ splitNames [] rest := by
  induction cs generalizing current with
  | nil => cases current <;> simp [splitNames]
  | cons c cs ih =>
    cases slash : c == '/' with
    | true => cases current <;> simp [splitNames, slash, ih]
    | false => simp [splitNames, slash, ih]

theorem names_slash (path : Path) : names (path ++ "/") = names path := by
  have both := splitNames_slash [] path.toList []
  simpa [names, splitNames] using both

theorem splitNames_free {cs : List Char} (free : '/' ∉ cs) (current : List Char) :
    splitNames current cs =
      if (current.reverse ++ cs).isEmpty then [] else [String.ofList (current.reverse ++ cs)] := by
  induction cs generalizing current with
  | nil => cases current <;> simp [splitNames]
  | cons c cs ih =>
    rw [List.mem_cons, not_or] at free
    have other : (c == '/') = false := beq_false_of_ne (Ne.symm free.1)
    simp [splitNames, other, ih free.2]

theorem mem_splitNames_ending {ending : List Char} (free : '/' ∉ ending) (written : ending ≠ [])
    (current cs : List Char) : ∃ front, String.ofList (front ++ ending) ∈ splitNames current (cs ++ ending) := by
  induction cs generalizing current with
  | nil =>
    refine ⟨current.reverse, ?_⟩
    have nonempty : (current.reverse ++ ending).isEmpty = false := by simp [written]
    rw [List.nil_append, splitNames_free free, nonempty, if_neg Bool.false_ne_true]
    exact List.mem_singleton_self _
  | cons c cs ih =>
    rw [List.cons_append, splitNames]
    split
    next =>
      obtain ⟨front, member⟩ := ih []
      refine ⟨front, ?_⟩
      split
      next => exact member
      next => exact List.mem_cons_of_mem _ member
    next => exact ih (c :: current)

theorem isName_ofList {cs : List Char} (free : '/' ∉ cs) (written : cs ≠ []) :
    IsName (String.ofList cs) := by
  rw [IsName, String.toList_ofList]
  exact ⟨fun empty => written (String.ofList_eq_empty_iff.mp empty), free⟩

theorem mem_splitNames {current cs : List Char} (free : '/' ∉ current)
    (member : name ∈ splitNames current cs) : IsName name := by
  have finished : ∀ c before, '/' ∉ c :: before → IsName (String.ofList (c :: before).reverse) :=
    fun c before free => isName_ofList (by rwa [List.mem_reverse]) (by simp)
  induction cs generalizing current with
  | nil =>
    cases current with
    | nil => cases member
    | cons c before =>
      obtain rfl := List.mem_singleton.mp member
      exact finished c before free
  | cons c cs ih =>
    rw [splitNames] at member
    cases slash : c == '/' with
    | true =>
      rw [slash, if_pos rfl] at member
      cases current with
      | nil => exact ih List.not_mem_nil member
      | cons d before =>
        obtain rfl | later := List.mem_cons.mp member
        · exact finished d before free
        · exact ih List.not_mem_nil later
    | false =>
      rw [slash, if_neg Bool.false_ne_true] at member
      refine ih ?_ member
      rw [List.mem_cons, not_or]
      exact ⟨fun same => by simp [← same] at slash, free⟩

theorem isName_of_mem (member : name ∈ path.names) : IsName name :=
  mem_splitNames List.not_mem_nil member

section Joining

theorem names_join (relative : child.isAbsolute = false) :
    (join base child).names = base.names ++ child.names := by
  rw [join, relative, if_neg Bool.false_ne_true]
  by_cases empty : base = ""
  · subst empty
    simp [names, splitNames]
  · cases slash : base.endsInSlash with
    | true =>
      simp only [endsInSlash, beq_iff_eq, List.getLast?_eq_some_iff] at slash
      obtain ⟨front, same⟩ := slash
      have here := splitNames_slash [] front []
      have both := splitNames_slash [] front child.toList
      simp [names, same, here, both, splitNames]
    | false =>
      have both := splitNames_slash [] base.toList child.toList
      simp [names, empty, both]

theorem isAbsolute_join (relative : child.isAbsolute = false) (written : base ≠ "") :
    (join base child).isAbsolute = base.isAbsolute := by
  have first : base.toList ≠ [] := fun empty => written (String.toList_eq_nil_iff.mp empty)
  obtain ⟨c, rest, same⟩ := List.exists_cons_of_ne_nil first
  rw [join, relative, if_neg Bool.false_ne_true]
  split <;> simp [isAbsolute, same]

theorem endsInSlash_join (relative : child.isAbsolute = false) (written : child ≠ "") :
    (join base child).endsInSlash = child.endsInSlash := by
  have named : child.toList ≠ [] := by simpa using written
  have last := List.getLast?_eq_some_getLast named
  rw [join, relative, if_neg Bool.false_ne_true]
  split <;> simp only [endsInSlash, String.toList_append, List.getLast?_append, last, Option.some_or]

theorem splitNames_ne_nil {current : List Char} (started : current ≠ []) (cs : List Char) :
    splitNames current cs ≠ [] := by
  have nonempty : current.isEmpty = false := by
    rw [List.isEmpty_eq_false_iff]
    exact started
  induction cs generalizing current with
  | nil => simp [splitNames, nonempty]
  | cons c cs ih =>
    cases slash : c == '/' with
    | true => simp [splitNames, slash, nonempty]
    | false =>
      rw [splitNames, slash, if_neg Bool.false_ne_true]
      exact ih (List.cons_ne_nil _ _) rfl

theorem names_ne_nil (relative : path.isAbsolute = false) (written : path ≠ "") : path.names ≠ [] := by
  have first : path.toList ≠ [] := fun empty => written (String.toList_eq_nil_iff.mp empty)
  obtain ⟨c, rest, same⟩ := List.exists_cons_of_ne_nil first
  have other : (c == '/') = false := by simpa [isAbsolute, same] using relative
  rw [names, same, splitNames, other, if_neg Bool.false_ne_true]
  exact splitNames_ne_nil (List.cons_ne_nil _ _) rest

end Joining

section Steps

variable {steps : List String}

theorem names_intercalate (plain : ∀ name ∈ steps, IsName name) : names ("/".intercalate steps) = steps := by
  induction steps with
  | nil => rfl
  | cons name rest ih =>
    rw [List.forall_mem_cons] at plain
    have alone : names name = [name] := by
      simp [names, splitNames_free plain.1.2, plain.1.1]
    cases rest with
    | nil => simpa using alone
    | cons next rest =>
      have both := splitNames_slash [] name.toList ("/".intercalate (next :: rest)).toList
      have later := ih plain.2
      rw [names] at alone later
      rw [alone, later] at both
      rw [String.intercalate_cons_cons, names, String.toList_append, String.toList_append,
        List.append_assoc]
      exact both

theorem names_ofSteps (plain : ∀ name ∈ steps, IsName name) (absolute : Bool) :
    (ofSteps absolute steps).names = steps := by
  cases absolute with
  | false => simpa [ofSteps] using names_intercalate plain
  | true =>
    have joined := names_intercalate plain
    simpa [ofSteps, names, splitNames] using joined

theorem isAbsolute_ofSteps (plain : ∀ name ∈ steps, IsName name) (absolute : Bool) :
    (ofSteps absolute steps).isAbsolute = absolute := by
  cases absolute with
  | true => simp [ofSteps, isAbsolute]
  | false =>
    cases steps with
    | nil => rfl
    | cons name rest =>
      rw [List.forall_mem_cons] at plain
      have first : name.toList ≠ [] := fun empty => plain.1.1 (String.toList_eq_nil_iff.mp empty)
      obtain ⟨c, cs, same⟩ := List.exists_cons_of_ne_nil first
      have other : c ≠ '/' := fun slash => plain.1.2 (by simp [same, slash])
      cases rest <;> simp [ofSteps, isAbsolute, same, other]

theorem mem_steps (member : name ∈ path.steps) : name ∈ path.names := by
  rw [steps] at member
  split at member
  next => cases member
  next first rest same =>
    rw [same]
    split at member
    next => exact List.mem_cons_of_mem _ (List.mem_filter.mp member).1
    next =>
      obtain rfl | later := List.mem_cons.mp member
      · exact List.mem_cons_self
      · exact List.mem_cons_of_mem _ (List.mem_filter.mp later).1

-- Names that stay in place are left out of the steps, except for one in front.
theorem filter_steps (path : Path) : path.steps.filter (· != ".") = path.names.filter (· != ".") := by
  rw [steps]
  split
  next same => rw [same]
  next first rest same =>
    rw [same]
    split
    next dot =>
      simp only [Bool.and_eq_true, decide_eq_true_eq] at dot
      simp [dot.1]
    next => simp [List.filter_cons]

theorem parent?_steps {parent : Path} (above : path.parent? = some parent) :
    parent = ofSteps path.isAbsolute path.steps.dropLast := by
  rw [parent?] at above
  split at above
  next => cases above
  next first rest same =>
    cases above
    rw [same]

end Steps

end ClientGen.Path
