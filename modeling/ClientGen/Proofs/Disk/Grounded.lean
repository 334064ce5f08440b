import ClientGen.Proofs.Disk.Tree

namespace ClientGen.Disk

variable {before disk after : Disk} {path : Path} {here spot top directory : Place} {name : String} {entry : Entry}

-- Every entry lies in a directory, and the working directory is one.
structure Grounded (disk : Disk) : Prop where
  sound : disk.Sound
  working : disk.entryAt disk.workingDirectory = some .directory

section Keeping

theorem upper_directory (sound : disk.Sound) (there : disk.entryAt here = some .directory) :
    disk.entryAt here.dropLast = some .directory := by
  by_cases top : here = []
  · rw [top]
    rfl
  · exact sound.parent top there

theorem walk_directory (sound : disk.Sound) {names : List String} (there : disk.entryAt here = some .directory)
    (walked : disk.walk here names = .ok spot) : disk.entryAt spot = some .directory := by
  induction names generalizing here with
  | nil =>
    cases walked
    exact there
  | cons name rest ih =>
    rw [walk] at walked
    split at walked
    next => exact ih there walked
    next =>
      split at walked
      next => exact ih (upper_directory sound there) walked
      next =>
        split at walked
        next => cases walked
        next =>
          split at walked
          next => cases walked
          next => cases walked
          next below => exact ih below walked

theorem Grounded.start (grounded : disk.Grounded) (path : Path) :
    disk.entryAt (disk.start path) = some .directory := by
  rw [Disk.start]
  split
  next => rfl
  next => exact grounded.working

-- The directory in which a walk along a path has ended.
def Target.base : Target → Place
  | .named directory _ => directory
  | .here directory => directory
  | .above directory => directory
  | .root => []

theorem Grounded.target {target : Target} (grounded : disk.Grounded) (reached : disk.target path = .ok target) :
    disk.entryAt target.base = some .directory := by
  simp only [Disk.target, bind, Except.bind] at reached
  split at reached
  next => cases reached
  next =>
    split at reached
    next =>
      cases reached
      rfl
    next =>
      split at reached
      next => cases reached
      next walked =>
        have there := walk_directory grounded.sound (grounded.start path) walked
        split at reached
        next =>
          cases reached
          exact there
        next =>
          split at reached
          next =>
            cases reached
            exact there
          next =>
            split at reached
            next => cases reached
            next =>
              cases reached
              exact there

theorem Grounded.find (grounded : disk.Grounded) (found : disk.find path = .ok (spot, entry)) :
    disk.entryAt spot = some entry := by
  simp only [Disk.find, bind, Except.bind] at found
  split at found
  next => cases found
  next target reached =>
    have there := grounded.target reached
    cases target with
    | root =>
      cases found
      exact there
    | here directory =>
      cases found
      exact there
    | above directory =>
      cases found
      exact upper_directory grounded.sound there
    | named directory name =>
      simp only at found
      split at found
      next => cases found
      next held =>
        split at found
        next => cases found
        next =>
          cases found
          exact held
      next held =>
        cases found
        exact held

theorem Grounded.put (grounded : disk.Grounded) (there : disk.entryAt directory = some .directory)
    (free : disk.entryAt (directory ++ [name]) ≠ some .directory) (entry : Entry) :
    (disk.put (directory ++ [name]) entry).Grounded := by
  have kept : ∀ spot, disk.entryAt spot = some .directory →
      (disk.put (directory ++ [name]) entry).entryAt spot = some .directory := by
    intro spot held
    refine (entryAt_put_ne ?_).trans held
    rintro rfl
    exact free held
  refine ⟨fun spot below other found => ?_, kept _ grounded.working⟩
  apply kept
  by_cases here : spot ++ [below] = directory ++ [name]
  · rw [(List.append_inj' here rfl).1]
    exact there
  · rw [entryAt_put_ne here] at found
    exact grounded.sound spot below other found

theorem Grounded.makeDirectory (grounded : disk.Grounded) (made : disk.makeDirectory path = .ok after) :
    after.Grounded := by
  simp only [Disk.makeDirectory, bind, Except.bind] at made
  split at made
  next => cases made
  next target reached =>
    cases target with
    | root => cases made
    | here directory => cases made
    | above directory => cases made
    | named directory name =>
      simp only at made
      split at made
      next => cases made
      next missing =>
        cases made
        have there : disk.entryAt directory = some .directory := grounded.target reached
        refine grounded.put there ?_ .directory
        rw [missing]
        exact (Option.some_ne_none _).symm

theorem Grounded.write {content : ByteArray} (grounded : disk.Grounded)
    (written : disk.write path content = .ok after) : after.Grounded := by
  obtain ⟨directory, name, reached, _⟩ := named_of_write written
  obtain ⟨free, rfl⟩ := write_destination written
  rw [← target_destination reached] at free ⊢
  exact grounded.put (grounded.target reached) free (.file content)

theorem transmits_grounded : Action.Transmits fun before after => before.Grounded → after.Grounded where
  refl _ grounded := grounded
  trans first second grounded := second (first grounded)

end Keeping

section Removing

theorem entryAt_clear (top : Place) (disk : Disk) (spot : Place) :
    (disk.clear top).entryAt spot = if Under top spot then none else disk.entryAt spot := by
  cases spot with
  | nil =>
    have outside : ¬ Under top [] := fun under => under.2 (List.prefix_nil.mp under.1).symm
    rw [if_neg outside]
    rfl
  | cons name rest =>
    have looked := lookup_filter (fun spot => !(top.isPrefixOf spot && spot != top)) disk.entries (name :: rest)
    refine looked.trans ?_
    by_cases below : Under top (name :: rest)
    · have inside : (!(top.isPrefixOf (name :: rest) && (name :: rest) != top)) = false := by
        simpa using (show top <+: name :: rest ∧ name :: rest ≠ top from below)
      rw [if_pos below, inside, if_neg Bool.false_ne_true]
    · have outside : (!(top.isPrefixOf (name :: rest) && (name :: rest) != top)) = true := by
        rw [Bool.not_eq_true', ← Bool.not_eq_true]
        simpa [Under] using below
      rw [if_neg below, if_pos outside]
      rfl

theorem Sound.clear (sound : disk.Sound) (top : Place) : (disk.clear top).Sound := by
  intro spot name entry found
  rw [entryAt_clear] at found ⊢
  split at found
  next => cases found
  next away =>
    rw [if_neg]
    · exact sound spot name entry found
    · rintro ⟨above, _⟩
      refine away ⟨above.trans (List.prefix_append _ _), ?_⟩
      rintro rfl
      exact absurd above.length_le (by simp)

theorem removeDirectory_of_directory (sound : disk.Sound) (plain : path.Plain) (named : path.names ≠ [])
    (fits : Fits path) (there : disk.entryAt (disk.place path) = some .directory) :
    removeDirectory path disk = (.ok (), disk.prune (disk.place path)) := by
  have deep := deep_place plain named disk
  have found := find_of_entryAt sound plain named fits (fun _ => rfl) there
  have parent : (disk.clear (disk.place path)).entryAt ((disk.clear (disk.place path)).place path).dropLast =
      some .directory := by
    have kept : (disk.clear (disk.place path)).entryAt (disk.place path) = some .directory := by
      rw [entryAt_clear, if_neg]
      · exact there
      · exact fun under => under.2 rfl
    exact (sound.clear _).parent deep kept
  obtain ⟨directory, name, reached, _⟩ := target_of_parent (sound.clear (disk.place path)) plain named fits parent
  simp only [removeDirectory, found, reached]

theorem Grounded.prune (grounded : disk.Grounded) (deep : top ≠ []) (away : ¬ top <+: disk.workingDirectory) :
    (disk.prune top).Grounded := by
  refine ⟨grounded.sound.prune deep, ?_⟩
  rw [entryAt_prune deep]
  exact (if_neg away).trans grounded.working

end Removing

section Making

theorem makeDirectories_of_directory (sound : disk.Sound) (plain : path.Plain) (named : path.names ≠ [])
    (fits : Fits path) (there : disk.entryAt (disk.place path) = some .directory) :
    makeDirectories path disk = (.ok (), disk) := by
  have written : path ≠ "" := by
    rintro rfl
    exact named rfl
  have parent := sound.parent (deep_place plain named disk) there
  obtain ⟨directory, name, reached, spot⟩ := target_of_parent sound plain named fits parent
  have exists' : disk.makeDirectory path = .error .alreadyExists := by
    simp only [makeDirectory, reached, bind, Except.bind, spot, there]
    rfl
  have found := find_of_entryAt sound plain named fits (fun _ => rfl) there
  simp [makeDirectories, written, makeAfter, exists', isDirectory, found]

theorem makeDirectories_of_missing (sound : disk.Sound) (plain : path.Plain) (named : path.names ≠ [])
    (fits : Fits path) (parent : disk.entryAt (disk.place path).dropLast = some .directory)
    (missing : disk.entryAt (disk.place path) = none) :
    makeDirectories path disk = (.ok (), disk.put (disk.place path) .directory) := by
  have written : path ≠ "" := by
    rintro rfl
    exact named rfl
  obtain ⟨directory, name, reached, spot⟩ := target_of_parent sound plain named fits parent
  have made : disk.makeDirectory path = .ok (disk.put (disk.place path) .directory) := by
    simp only [makeDirectory, reached, bind, Except.bind, spot, missing]
    rfl
  simp [makeDirectories, written, makeAfter, made]

end Making

end ClientGen.Disk
