import ClientGen.Proofs.Disk.Frame
import Mathlib.Data.List.Induction

namespace ClientGen

namespace Disk

variable {before middle disk after : Disk} {path : Path} {here spot front top : Place} {names : List String}
  {entry : Entry}

-- Every entry lies in a directory.
def Sound (disk : Disk) : Prop :=
  ∀ spot name entry, disk.entryAt (spot ++ [name]) = some entry → disk.entryAt spot = some .directory

theorem Sound.above (sound : disk.Sound) (found : disk.entryAt spot = some entry) (above : front <+: spot)
    (proper : front ≠ spot) : disk.entryAt front = some .directory := by
  obtain ⟨rest, rfl⟩ := above
  induction rest using List.reverseRecOn generalizing entry with
  | nil => exact absurd (List.append_nil front).symm proper
  | append_singleton rest name ih =>
    rw [← List.append_assoc] at found
    have upper := sound _ _ _ found
    by_cases last : rest = []
    · rwa [last, List.append_nil] at upper
    · exact ih upper fun same => last (List.self_eq_append_right.mp same)

theorem mem_of_lookup {entries : List (Place × Entry)} (found : entries.lookup spot = some entry) :
    (spot, entry) ∈ entries := by
  induction entries with
  | nil => cases found
  | cons first rest ih =>
    obtain ⟨other, held⟩ := first
    by_cases same : spot = other
    · subst same
      rw [List.lookup_cons_self] at found
      cases found
      exact List.mem_cons_self
    · rw [lookup_cons_ne same] at found
      exact List.mem_cons_of_mem _ (ih found)

theorem Sound.of_entries (each : ∀ item ∈ disk.entries, disk.isDirectoryAt item.1.dropLast = true) :
    disk.Sound := by
  intro spot name entry found
  have written : spot ++ [name] ≠ [] := List.append_ne_nil_of_right_ne_nil spot (List.cons_ne_nil name [])
  rw [entryAt, if_neg (by simp [written])] at found
  have upper := each _ (mem_of_lookup found)
  rw [List.dropLast_concat, isDirectoryAt] at upper
  split at upper
  next there => exact there
  next => cases upper

-- Neither the path nor a name of it is too long.
structure Fits (path : Path) : Prop where
  checked : checkPath path = .ok ()
  short : ∀ name ∈ path.names, name.utf8ByteSize ≤ maxName

theorem checkPath_ok_iff :
    checkPath path = .ok () ↔ '\x00' ∉ path.toList ∧ path ≠ "" ∧ path.utf8ByteSize < maxPath := by
  unfold checkPath
  by_cases nul : '\x00' ∈ path.toList
  · simp [nul]
  · by_cases written : path = ""
    · simp [written]
    · by_cases long : maxPath ≤ path.utf8ByteSize
      · simp [nul, written, long]
      · simp [nul, written, long, Nat.not_le.mp long]

section Walking

theorem walk_short (plain : ∀ name ∈ names, name ≠ "." ∧ name ≠ "..") (walked : disk.walk here names = .ok spot) :
    ∀ name ∈ names, name.utf8ByteSize ≤ maxName := by
  induction names generalizing here with
  | nil => exact fun name member => absurd member List.not_mem_nil
  | cons name rest ih =>
    rw [List.forall_mem_cons] at plain
    rw [walk, if_neg plain.1.1, if_neg plain.1.2] at walked
    split at walked
    next => cases walked
    next short =>
      split at walked
      next => cases walked
      next => cases walked
      next => exact List.forall_mem_cons.mpr ⟨Nat.not_lt.mp short, ih plain.2 walked⟩

theorem walk_directories (plain : ∀ name ∈ names, name ≠ "." ∧ name ≠ "..")
    (short : ∀ name ∈ names, name.utf8ByteSize ≤ maxName)
    (directories : ∀ front, front <+: names → disk.entryAt (here ++ front) = some .directory) :
    disk.walk here names = .ok (here ++ names) := by
  induction names generalizing here with
  | nil => rw [walk, List.append_nil]
  | cons name rest ih =>
    rw [List.forall_mem_cons] at plain short
    have first : disk.entryAt (here ++ [name]) = some .directory :=
      directories [name] (List.prefix_append [name] rest)
    have later : disk.walk (here ++ [name]) rest = .ok (here ++ [name] ++ rest) := by
      refine ih plain.2 short.2 fun front beginning => ?_
      rw [List.append_assoc]
      exact directories (name :: front) (List.cons_prefix_cons.mpr ⟨rfl, beginning⟩)
    rw [walk, if_neg plain.1.1, if_neg plain.1.2, if_neg (Nat.not_lt.mpr short.1), first]
    simpa using later

theorem target_named {target : Target} (plain : path.Plain) (named : path.names ≠ [])
    (reached : disk.target path = .ok target) :
    Fits path ∧ ∃ directory name, target = .named directory name := by
  simp only [Disk.target, bind, Except.bind] at reached
  split at reached
  next => cases reached
  next checked =>
    split at reached
    next empty => exact absurd (List.getLast?_eq_none_iff.mp empty) named
    next last found =>
      obtain ⟨front, parts⟩ := List.getLast?_eq_some_iff.mp found
      rw [Path.Plain, parts, List.forall_mem_append, List.forall_mem_singleton] at plain
      rw [parts, List.dropLast_concat] at reached
      split at reached
      next => cases reached
      next directory walked =>
        rw [if_neg plain.2.1, if_neg plain.2.2] at reached
        split at reached
        next => cases reached
        next short =>
          cases reached
          refine ⟨⟨checked, ?_⟩, directory, last, rfl⟩
          rw [parts, List.forall_mem_append, List.forall_mem_singleton]
          exact ⟨walk_short plain.1 walked, Nat.not_lt.mp short⟩

theorem fits_of_find (plain : path.Plain) (named : path.names ≠ []) (found : disk.find path = .ok (spot, entry)) :
    Fits path := by
  simp only [find, bind, Except.bind] at found
  split at found
  next => cases found
  next target reached => exact (target_named plain named reached).1

theorem entryAt_of_find (plain : path.Plain) (named : path.names ≠ []) (found : disk.find path = .ok (spot, entry)) :
    spot = disk.place path ∧ disk.entryAt (disk.place path) = some entry := by
  have here := find_place plain.descends found
  refine ⟨here, here ▸ ?_⟩
  simp only [find, bind, Except.bind] at found
  split at found
  next => cases found
  next target reached =>
    obtain ⟨_, directory, name, rfl⟩ := target_named plain named reached
    simp only at found
    split at found
    next => cases found
    next held =>
      split at found
      next => cases found
      next =>
        cases found
        exact held
    next held =>
      cases found
      exact held

theorem place_split (plain : path.Plain) (named : path.names ≠ []) (disk : Disk) :
    disk.place path = disk.start path ++ path.names.dropLast ++ [path.names.getLast named] := by
  rw [place_plain plain, List.append_assoc, List.dropLast_concat_getLast]

-- In a tree of directories a path leads to a name in the directory that its place lies in, if there is one.
theorem target_of_parent (sound : disk.Sound) (plain : path.Plain) (named : path.names ≠ []) (fits : Fits path)
    (parent : disk.entryAt (disk.place path).dropLast = some .directory) :
    ∃ directory name, disk.target path = .ok (.named directory name) ∧ directory ++ [name] = disk.place path := by
  have spot := place_split plain named disk
  obtain ⟨front, last, parts⟩ : ∃ front last, path.names = front ++ [last] :=
    ⟨_, _, (List.dropLast_concat_getLast named).symm⟩
  have short := fits.short
  rw [Path.Plain, parts, List.forall_mem_append, List.forall_mem_singleton] at plain
  rw [parts, List.forall_mem_append, List.forall_mem_singleton] at short
  simp only [parts, List.dropLast_concat, List.getLast_concat] at spot
  rw [spot, List.dropLast_concat] at parent
  have walked : disk.walk (disk.start path) front = .ok (disk.start path ++ front) := by
    refine walk_directories plain.1 short.1 fun upper beginning => ?_
    by_cases whole : upper = front
    · rw [whole]
      exact parent
    · refine sound.above parent ((List.prefix_append_right_inj _).mpr beginning) ?_
      exact fun same => whole (List.append_cancel_left same)
  refine ⟨disk.start path ++ front, last, ?_, spot.symm⟩
  simp only [Disk.target, fits.checked, parts, bind, Except.bind, List.getLast?_concat, List.dropLast_concat, walked]
  rw [if_neg plain.2.1, if_neg plain.2.2, if_neg (Nat.not_lt.mpr short.2)]
  rfl

theorem Sound.parent (sound : disk.Sound) (deep : spot ≠ []) (held : disk.entryAt spot = some entry) :
    disk.entryAt spot.dropLast = some .directory := by
  rw [← List.dropLast_concat_getLast deep] at held
  exact sound _ _ _ held

theorem deep_place (plain : path.Plain) (named : path.names ≠ []) (disk : Disk) : disk.place path ≠ [] := by
  rw [place_plain plain]
  exact List.append_ne_nil_of_right_ne_nil _ named

-- There it finds what is there. A file is not found under a path that ends in a slash.
theorem find_of_entryAt (sound : disk.Sound) (plain : path.Plain) (named : path.names ≠ []) (fits : Fits path)
    (slash : path.endsInSlash = true → entry = .directory)
    (held : disk.entryAt (disk.place path) = some entry) : disk.find path = .ok (disk.place path, entry) := by
  have parent := sound.parent (deep_place plain named disk) held
  obtain ⟨directory, name, reached, spot⟩ := target_of_parent sound plain named fits parent
  simp only [find, reached, bind, Except.bind, spot, held]
  cases entry with
  | directory => rfl
  | file content =>
    have noSlash : path.endsInSlash = false := by
      rw [← Bool.not_eq_true]
      intro ends
      cases slash ends
    simp [noSlash, pure, Except.pure]

theorem target_slash {target : Target} (short : (path ++ "/").utf8ByteSize < maxPath)
    (reached : disk.target path = .ok target) : disk.target (path ++ "/") = .ok target := by
  simp only [Disk.target, bind, Except.bind] at reached ⊢
  split at reached
  next => cases reached
  next checked =>
    obtain ⟨nul, written, _⟩ := checkPath_ok_iff.mp checked
    have still : checkPath (path ++ "/") = .ok () := checkPath_ok_iff.mpr ⟨by simp [nul], by simp, short⟩
    rw [still, start_slash written, Path.names_slash]
    exact reached

theorem find_slash (short : (path ++ "/").utf8ByteSize < maxPath) (found : disk.find path = .ok (spot, .directory)) :
    disk.find (path ++ "/") = .ok (spot, .directory) := by
  simp only [find, bind, Except.bind] at found ⊢
  split at found
  next => cases found
  next target reached =>
    rw [target_slash short reached]
    cases target with
    | named directory name =>
      simp only at found ⊢
      split at found
      next => cases found
      next => split at found <;> cases found
      next =>
        cases found
        rfl
    | _ => exact found

end Walking

section Keeping

theorem walk_kept
    (kept : ∀ spot ∈ passes here names, before.entryAt spot = some .directory → after.entryAt spot = some .directory)
    (walked : before.walk here names = .ok spot) : after.walk here names = .ok spot := by
  induction names generalizing here with
  | nil => exact walked
  | cons name rest ih =>
    rw [passes, List.forall_mem_cons] at kept
    have later := ih kept.2
    rw [walk] at walked ⊢
    rw [follow] at kept later
    split at walked
    next stays =>
      rw [if_pos stays] at later ⊢
      exact later walked
    next moves =>
      rw [if_neg moves] at later ⊢
      split at walked
      next up =>
        rw [if_pos up] at later ⊢
        exact later walked
      next down =>
        rw [if_neg down] at later ⊢
        split at walked
        next => cases walked
        next short =>
          rw [if_neg short]
          split at walked
          next => cases walked
          next => cases walked
          next there =>
            -- Only here a directory is entered, which has to be there still.
            rw [kept.2 _ ?first there]
            · exact later walked
            case first =>
              rw [if_neg moves, if_neg down]
              cases rest <;> exact List.mem_cons_self

section Paths

variable (kept : ∀ spot ∈ before.route path,
  before.entryAt spot = some .directory → after.entryAt spot = some .directory)

include kept

-- As long as no directory on its way is lost, a path leads where it led.
theorem target_kept {target : Target} (same : after.workingDirectory = before.workingDirectory)
    (reached : before.target path = .ok target) : after.target path = .ok target := by
  simp only [Disk.target, bind, Except.bind] at reached ⊢
  rw [start_congr same]
  split at reached
  next => cases reached
  next checked =>
    split at reached
    next => exact reached
    next last found =>
      split at reached
      next => cases reached
      next directory walked =>
        have parts : path.names.dropLast ++ [last] = path.names := by
          obtain ⟨front, parts⟩ := List.getLast?_eq_some_iff.mp found
          rw [parts, List.dropLast_concat]
        have along : ∀ spot ∈ passes (before.start path) path.names.dropLast,
            before.entryAt spot = some .directory → after.entryAt spot = some .directory := by
          intro spot passed
          have whole := passes_append (before.start path) path.names.dropLast [last] passed
          rw [parts] at whole
          exact kept spot whole
        rw [walk_kept along walked]
        exact reached

theorem find_kept (same : after.workingDirectory = before.workingDirectory)
    (found : before.find path = .ok (spot, entry)) (held : after.entryAt spot = some entry) :
    after.find path = .ok (spot, entry) := by
  simp only [find, bind, Except.bind] at found ⊢
  split at found
  next => cases found
  next target reached =>
    rw [target_kept kept same reached]
    cases target with
    | root => exact found
    | here directory => exact found
    | above directory => exact found
    | named directory name =>
      simp only at found ⊢
      split at found
      next => cases found
      next =>
        split at found
        next => cases found
        next noSlash =>
          cases found
          simp [held, noSlash, pure, Except.pure]
      next =>
        cases found
        simp [held, pure, Except.pure]

end Paths

end Keeping

section Writing

theorem named_of_write {content : ByteArray} (written : disk.write path content = .ok after) :
    ∃ directory name, disk.target path = .ok (.named directory name) ∧ ¬ path.endsInSlash = true := by
  simp only [write, bind, Except.bind] at written
  split at written
  next => cases written
  next target reached =>
    cases target with
    | root => cases written
    | here directory => cases written
    | above directory => cases written
    | named directory name =>
      simp only at written
      split at written
      next => cases written
      next noSlash => exact ⟨directory, name, reached, noSlash⟩

theorem find_of_write {content : ByteArray} (written : disk.write path content = .ok after) :
    after.find path = .ok (disk.destination path, .file content) := by
  obtain ⟨noDirectory, rfl⟩ := write_destination written
  obtain ⟨directory, name, reached, noSlash⟩ := named_of_write written
  rw [← target_destination reached, Target.place] at noDirectory ⊢
  have kept : ∀ spot, disk.entryAt spot = some .directory →
      (disk.put (directory ++ [name]) (.file content)).entryAt spot = some .directory := by
    intro spot there
    refine (entryAt_put_ne ?_).trans there
    rintro rfl
    exact noDirectory there
  have held := entryAt_put_self (List.append_ne_nil_of_right_ne_nil directory (List.cons_ne_nil name [])) disk
    (.file content)
  simp [find, target_kept (fun spot _ => kept spot) rfl reached, bind, Except.bind, held, noSlash, pure, Except.pure]

end Writing

section Looking

theorem directory_of_isDirectory (plain : path.Plain) (named : path.names ≠ []) (there : disk.isDirectory path = true) :
    disk.entryAt (disk.place path) = some .directory := by
  rw [isDirectory] at there
  split at there
  next found => exact (entryAt_of_find plain named found).2
  next => cases there

theorem file_of_isFile (plain : path.Plain) (named : path.names ≠ []) (there : disk.isFile path = true) :
    ∃ content, disk.entryAt (disk.place path) = some (.file content) := by
  rw [isFile] at there
  split at there
  next content found => exact ⟨content, (entryAt_of_find plain named found).2⟩
  next => cases there

theorem isFile_of_file {content : ByteArray} (sound : disk.Sound) (plain : path.Plain) (named : path.names ≠ [])
    (fits : Fits path) (noSlash : path.endsInSlash = false)
    (held : disk.entryAt (disk.place path) = some (.file content)) : disk.isFile path = true := by
  have found := find_of_entryAt sound plain named fits (fun ends => by rw [noSlash] at ends; cases ends) held
  rw [isFile, found]

theorem exists?_of_directory (sound : disk.Sound) (plain : path.Plain) (named : path.names ≠ []) (fits : Fits path)
    (held : disk.entryAt (disk.place path) = some .directory) : disk.exists? path = true := by
  rw [exists?, find_of_entryAt sound plain named fits (fun _ => rfl) held]
  rfl

end Looking

section Making

theorem directory_of_makeDirectory (plain : path.Plain) (made : disk.makeDirectory path = .ok after) :
    after.entryAt (after.place path) = some .directory := by
  obtain ⟨_, rfl⟩ := makeDirectory_eq plain.descends made
  exact entryAt_put_directory disk (disk.place path)

theorem directory_of_makeAfter {parents : Disk → Except DiskFault Unit × Disk} (plain : path.Plain)
    (named : path.names ≠ []) (made : makeAfter parents path disk = (.ok (), after)) :
    after.entryAt (after.place path) = some .directory := by
  simp only [makeAfter] at made
  split at made
  next first =>
    cases made
    exact directory_of_makeDirectory plain first
  next =>
    split at made
    next => cases made
    next =>
      split at made
      next second =>
        cases made
        exact directory_of_makeDirectory plain second
      next =>
        split at made
        next there =>
          cases made
          exact directory_of_isDirectory plain named there
        next => cases made
  next =>
    split at made
    next there =>
      cases made
      exact directory_of_isDirectory plain named there
    next => cases made

theorem directory_of_makeDirectories (plain : path.Plain) (named : path.names ≠ [])
    (made : makeDirectories path disk = (.ok (), after)) : after.entryAt (after.place path) = some .directory := by
  have written : path ≠ "" := by
    rintro rfl
    exact named rfl
  rw [makeDirectories, if_neg written] at made
  exact directory_of_makeAfter plain named made

end Making

section Emptying

def Under (top spot : Place) : Prop := top <+: spot ∧ spot ≠ top

instance (top spot : Place) : Decidable (Under top spot) := inferInstanceAs (Decidable (_ ∧ _))

-- Below some places there is nothing any more, and all else is as it was.
structure Emptied (tops : List Place) (before after : Disk) : Prop where
  workingDirectory : after.workingDirectory = before.workingDirectory
  away : ∀ spot, (∀ top ∈ tops, ¬ top <+: spot) → after.entryAt spot = before.entryAt spot
  files : ∀ spot content, after.entryAt spot = some (.file content) ↔
    before.entryAt spot = some (.file content) ∧ ∀ top ∈ tops, ¬ Under top spot

theorem Emptied.nothing (disk : Disk) : Emptied [] disk disk :=
  ⟨rfl, fun _ _ => rfl, fun _ _ => ⟨fun found => ⟨found, fun _ member => (List.not_mem_nil member).elim⟩, And.left⟩⟩

theorem Emptied.trans {first second : List Place} (one : Emptied first before middle)
    (two : Emptied second middle after) : Emptied (first ++ second) before after := by
  refine ⟨two.workingDirectory.trans one.workingDirectory, fun spot away => ?_, fun spot content => ?_⟩
  · rw [List.forall_mem_append] at away
    exact (two.away spot away.2).trans (one.away spot away.1)
  · rw [two.files, one.files, List.forall_mem_append, and_assoc]

theorem entryAt_prune (deep : top ≠ []) (disk : Disk) (spot : Place) :
    (disk.prune top).entryAt spot = if top <+: spot then none else disk.entryAt spot := by
  cases spot with
  | nil =>
    have away : ¬ top <+: [] := fun beginning => deep (List.prefix_nil.mp beginning)
    rw [if_neg away]
    rfl
  | cons name rest =>
    have looked := lookup_filter (fun spot => !top.isPrefixOf spot) disk.entries (name :: rest)
    refine looked.trans ?_
    by_cases below : top <+: name :: rest
    · rw [if_pos below, List.isPrefixOf_iff_prefix.mpr below]
      rfl
    · simp [below, entryAt]

theorem Sound.prune (sound : disk.Sound) (deep : top ≠ []) : (disk.prune top).Sound := by
  intro spot name entry found
  rw [entryAt_prune deep] at found ⊢
  split at found
  next => cases found
  next away =>
    have upper : ¬ top <+: spot := fun beginning => away (beginning.trans (List.prefix_append _ _))
    rw [if_neg upper]
    exact sound spot name entry found

theorem Emptied.of_pruned (deep : top ≠ []) (there : disk.entryAt top = some .directory) :
    Emptied [top] disk (disk.prune top) := by
  refine ⟨rfl, fun spot away => ?_, fun spot content => ?_⟩
  · rw [entryAt_prune deep, if_neg (away top (List.mem_singleton_self top))]
  · rw [entryAt_prune deep, List.forall_mem_singleton]
    by_cases below : top <+: spot
    · rw [if_pos below]
      constructor
      · intro found
        cases found
      · rintro ⟨found, notUnder⟩
        have only : spot = top := by_contra fun proper => notUnder ⟨below, proper⟩
        rw [only, there] at found
        cases found
    · rw [if_neg below]
      exact ⟨fun found => ⟨found, fun under => below under.1⟩, And.left⟩

theorem Emptied.of_no_directory (sound : disk.Sound) (absent : disk.entryAt top ≠ some .directory) :
    Emptied [top] disk disk := by
  refine ⟨rfl, fun _ _ => rfl, fun spot content => ⟨fun found => ⟨found, ?_⟩, And.left⟩⟩
  rw [List.forall_mem_singleton]
  exact fun under => absent (sound.above found under.1 under.2.symm)

theorem pruned_of_removeDirectory (plain : path.Plain) (named : path.names ≠ [])
    (removed : removeDirectory path disk = (.ok (), after)) :
    disk.entryAt (disk.place path) = some .directory ∧ after = disk.prune (disk.place path) := by
  rw [removeDirectory] at removed
  split at removed
  next => cases removed
  next => cases removed
  next spot found =>
    obtain ⟨rfl, there⟩ := entryAt_of_find plain named found
    simp only at removed
    split at removed
    next => cases removed
    next =>
      cases removed
      exact ⟨there, rfl⟩
    next => cases removed
    next => cases removed

end Emptying

end Disk

end ClientGen
