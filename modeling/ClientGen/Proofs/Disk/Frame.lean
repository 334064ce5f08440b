import ClientGen.Proofs.Action
import ClientGen.Proofs.Disk.Places

namespace ClientGen.Disk

variable {before middle after disk : Disk} {path : Path} {top spot : Place}

theorem entryAt_put_ne {entry : Entry} {other : Place} (different : other ≠ spot) :
    (disk.put spot entry).entryAt other = disk.entryAt other := by
  cases other with
  | nil => rfl
  | cons => rw [entryAt_put, if_neg (List.cons_ne_nil _ _), if_neg different]

theorem entryAt_put_self (deep : spot ≠ []) (disk : Disk) (entry : Entry) :
    (disk.put spot entry).entryAt spot = some entry := by
  rw [entryAt_put, if_neg deep, if_pos rfl]

theorem entryAt_put_directory (disk : Disk) (spot : Place) :
    (disk.put spot .directory).entryAt spot = some .directory := by
  rw [entryAt_put, if_pos rfl, ite_self]

-- Either a place is as it was, or a directory has been made where there was nothing: one step after another
-- does no more than that.
theorem kept_or_made_trans {allowed : Prop} {first second third : Option Entry}
    (one : second = first ∨ allowed ∧ first = none ∧ second = some .directory)
    (two : third = second ∨ allowed ∧ second = none ∧ third = some .directory) :
    third = first ∨ allowed ∧ first = none ∧ third = some .directory := by
  obtain same | ⟨may, missing, made⟩ := two
  · exact same ▸ one
  · obtain old | ⟨_, _, already⟩ := one
    · exact .inr ⟨may, old ▸ missing, made⟩
    · rw [already] at missing
      cases missing

-- From one disk to the other, directories that were missing have been made on the way to a place.
structure Opened (top : Place) (before after : Disk) : Prop where
  workingDirectory : after.workingDirectory = before.workingDirectory
  entryAt : ∀ spot, after.entryAt spot = before.entryAt spot ∨
    spot <+: top ∧ before.entryAt spot = none ∧ after.entryAt spot = some .directory

-- What lies at a place or below it may be gone, and nothing else.
structure Cleared (top : Place) (before after : Disk) : Prop where
  workingDirectory : after.workingDirectory = before.workingDirectory
  entryAt : ∀ spot, after.entryAt spot = before.entryAt spot ∨
    top <+: spot ∧ after.entryAt spot = none

namespace Opened

theorem refl (top : Place) (disk : Disk) : Opened top disk disk := ⟨rfl, fun _ => .inl rfl⟩

theorem trans (first : Opened top before middle) (second : Opened top middle after) :
    Opened top before after where
  workingDirectory := second.workingDirectory.trans first.workingDirectory
  entryAt spot := kept_or_made_trans (first.entryAt spot) (second.entryAt spot)

theorem put (above : spot <+: top) (missing : disk.entryAt spot = none) :
    Opened top disk (disk.put spot .directory) := by
  refine ⟨rfl, fun other => ?_⟩
  by_cases same : other = spot
  · subst same
    exact .inr ⟨above, missing, entryAt_put_directory disk other⟩
  · exact .inl (entryAt_put_ne same)

theorem directories (opened : Opened top before after) (there : before.entryAt spot = some .directory) :
    after.entryAt spot = some .directory := by
  obtain same | ⟨_, missing, _⟩ := opened.entryAt spot
  · exact same.trans there
  · rw [there] at missing
    cases missing

theorem files (opened : Opened top before after) (spot : Place) (content : ByteArray) :
    after.entryAt spot = some (.file content) ↔ before.entryAt spot = some (.file content) := by
  obtain same | ⟨_, missing, made⟩ := opened.entryAt spot
  · rw [same]
  · simp [missing, made]

theorem mono {deeper : Place} (opened : Opened top before after) (above : top <+: deeper) :
    Opened deeper before after := by
  refine ⟨opened.workingDirectory, fun spot => ?_⟩
  obtain same | ⟨upper, missing, made⟩ := opened.entryAt spot
  · exact .inl same
  · exact .inr ⟨upper.trans above, missing, made⟩

end Opened

section Places

variable {steps : List String}

theorem isName_of_beginning (beginning : steps <+: path.steps) : ∀ step ∈ steps, Path.IsName step :=
  fun _ member => Path.isName_of_mem (Path.mem_steps (beginning.subset member))

theorem place_ofSteps (beginning : steps <+: path.steps) :
    disk.place (Path.ofSteps path.isAbsolute steps) <+: disk.place path := by
  have plain := isName_of_beginning beginning
  rw [place, place, start, start, Path.isAbsolute_ofSteps plain, Path.names_ofSteps plain,
    ← Path.filter_steps, List.prefix_append_right_inj]
  exact beginning.filter _

theorem descends_ofSteps (descends : path.Descends) (beginning : steps <+: path.steps) :
    (Path.ofSteps path.isAbsolute steps).Descends := by
  rw [Path.Descends, Path.names_ofSteps (isName_of_beginning beginning)]
  exact fun member => descends (Path.mem_steps (beginning.subset member))

end Places

section Directories

variable {related : Disk → Disk → Prop} (transmits : Action.Transmits related)

include transmits

theorem related_makeAfter {parents : Disk → Except DiskFault Unit × Disk}
    (upper : ∀ disk, related disk (parents disk).2)
    (made : ∀ {disk after : Disk}, disk.makeDirectory path = .ok after → related disk after) (disk : Disk) :
    related disk (makeAfter parents path disk).2 := by
  simp only [makeAfter]
  split
  next first => exact made first
  next =>
    have above := upper disk
    split
    next parentsDone => rwa [parentsDone] at above
    next middle parentsDone =>
      rw [parentsDone] at above
      split
      next second => exact transmits.trans above (made second)
      next => split <;> exact above
  next => split <;> exact transmits.refl disk

theorem related_makeSteps (absolute : Bool) (steps : List String)
    (made : ∀ front, front <+: steps.reverse → ∀ {disk after : Disk},
      disk.makeDirectory (Path.ofSteps absolute front) = .ok after → related disk after) (disk : Disk) :
    related disk (makeSteps absolute steps disk).2 := by
  induction steps generalizing disk with
  | nil => exact transmits.refl disk
  | cons step before ih =>
    refine related_makeAfter transmits (ih fun front beginning => made front ?_) (made _ List.prefix_rfl) disk
    rw [List.reverse_cons]
    exact beginning.trans (List.prefix_append _ _)

-- What holds of making each directory on the way holds of making them all, whatever the outcome.
theorem related_makeDirectories
    (above : ∀ front, front <+: path.steps → ∀ {disk after : Disk},
      disk.makeDirectory (Path.ofSteps path.isAbsolute front) = .ok after → related disk after)
    (made : ∀ {disk after : Disk}, disk.makeDirectory path = .ok after → related disk after) (disk : Disk) :
    related disk (makeDirectories path disk).2 := by
  rw [makeDirectories]
  split
  next => exact transmits.refl disk
  next =>
    refine related_makeAfter transmits ?_ made disk
    refine related_makeSteps transmits _ _ fun front beginning => above front ?_
    rw [List.tail_reverse, List.reverse_reverse] at beginning
    exact beginning.trans (List.dropLast_prefix _)

end Directories

-- A relation about a place, with the place spelled by a path: that leads to the same place from every disk between.
theorem transmits_place {related : Place → Disk → Disk → Prop} (path : Path)
    (refl : ∀ place disk, related place disk disk)
    (trans : ∀ {place before middle after}, related place before middle → related place middle after →
      related place before after)
    (same : ∀ {place before after}, related place before after → after.workingDirectory = before.workingDirectory) :
    Action.Transmits fun before after => related (before.place path) before after where
  refl disk := refl _ disk
  trans first second := by
    rw [place_congr (same first)] at second
    exact trans first second

theorem transmits_opened (path : Path) :
    Action.Transmits fun before after => Opened (before.place path) before after :=
  transmits_place path .refl .trans Opened.workingDirectory

theorem opened_makeDirectories (descends : path.Descends) (disk : Disk) :
    Opened (disk.place path) disk (makeDirectories path disk).2 := by
  refine related_makeDirectories (transmits_opened path) ?_ ?_ disk
  · intro front beginning before after made
    obtain ⟨missing, rfl⟩ := makeDirectory_eq (descends_ofSteps descends beginning) made
    exact .put (place_ofSteps beginning) missing
  · intro before after made
    obtain ⟨missing, rfl⟩ := makeDirectory_eq descends made
    exact .put List.prefix_rfl missing

section Removal

theorem lookup_filter (keep : Place → Bool) (entries : List (Place × Entry)) (spot : Place) :
    (entries.filter fun entry => keep entry.1).lookup spot =
      if keep spot then entries.lookup spot else none := by
  induction entries with
  | nil => simp
  | cons entry rest ih =>
    obtain ⟨other, entry⟩ := entry
    by_cases same : spot = other
    · subst same
      rw [List.filter_cons]
      cases kept : keep spot with
      | true => simp
      | false => simpa [kept] using ih
    · rw [lookup_cons_ne same, ← ih, List.filter_cons]
      split
      next => rw [lookup_cons_ne same]
      next => rfl

theorem Cleared.refl (top : Place) (disk : Disk) : Cleared top disk disk := ⟨rfl, fun _ => .inl rfl⟩

theorem Cleared.filter (disk : Disk) (keep : Place → Bool) (kept : ∀ spot, keep spot = false → top <+: spot) :
    Cleared top disk { disk with entries := disk.entries.filter fun entry => keep entry.1 } := by
  refine ⟨rfl, fun spot => ?_⟩
  cases spot with
  | nil => exact .inl rfl
  | cons name rest =>
    have looked := lookup_filter keep disk.entries (name :: rest)
    cases keeps : keep (name :: rest) with
    | true => exact .inl (looked.trans (if_pos keeps))
    | false => exact .inr ⟨kept _ keeps, looked.trans (if_neg (by simp [keeps]))⟩

theorem cleared_prune (top : Place) (disk : Disk) : Cleared top disk (disk.prune top) := by
  refine .filter disk (fun spot => !top.isPrefixOf spot) fun spot removed => ?_
  simpa using removed

theorem cleared_clear (top : Place) (disk : Disk) : Cleared top disk (disk.clear top) := by
  refine .filter disk (fun spot => !(top.isPrefixOf spot && spot != top)) fun spot removed => ?_
  simp only [Bool.not_eq_false', Bool.and_eq_true, List.isPrefixOf_iff_prefix] at removed
  exact removed.1

theorem left_removeDirectory (descends : path.Descends) (disk : Disk) :
    (removeDirectory path disk).2 = disk ∨ (removeDirectory path disk).2 = disk.clear (disk.place path) ∨
      (removeDirectory path disk).2 = disk.prune (disk.place path) := by
  rw [removeDirectory]
  split
  next => exact .inl rfl
  next => exact .inl rfl
  next spot found =>
    rw [← find_place descends found]
    simp only
    split
    next => exact .inr (.inl rfl)
    next => exact .inr (.inr rfl)
    next => exact .inr (.inl rfl)
    next => exact .inr (.inl rfl)

theorem cleared_removeDirectory (descends : path.Descends) (disk : Disk) :
    Cleared (disk.place path) disk (removeDirectory path disk).2 := by
  rcases left_removeDirectory descends disk with same | same | same
  · rw [same]
    exact .refl _ disk
  · rw [same]
    exact cleared_clear (disk.place path) disk
  · rw [same]
    exact cleared_prune (disk.place path) disk

end Removal

end ClientGen.Disk
