import ClientGen.Disk.Access
import ClientGen.Proofs.Disk.Names

namespace ClientGen

def Path.Descends (path : Path) : Prop := ".." ∉ path.names

instance (path : Path) : Decidable path.Descends := inferInstanceAs (Decidable (_ ∉ _))

def Path.Plain (path : Path) : Prop := ∀ name ∈ path.names, name ≠ "." ∧ name ≠ ".."

theorem Path.Plain.descends {path : Path} (plain : path.Plain) : path.Descends :=
  fun member => (plain _ member).2 rfl

namespace Disk

variable {before disk after : Disk} {path : Path} {here spot : Place} {names : List String} {entry : Entry}

-- The place that a path spells.
def place (disk : Disk) (path : Path) : Place := disk.start path ++ path.names.filter (· != ".")

theorem filter_moving (moving : ∀ name ∈ names, name ≠ "." ∧ name ≠ "..") :
    names.filter (· != ".") = names := by
  rw [List.filter_eq_self]
  exact fun name member => by simpa using (moving name member).1

theorem place_plain (plain : path.Plain) (disk : Disk) : disk.place path = disk.start path ++ path.names := by
  rw [place, filter_moving plain]

def follow (here : Place) (name : String) : Place :=
  if name = "." then here else if name = ".." then here.dropLast else here ++ [name]

-- The place to which the names of a path lead one after the other.
def destination (disk : Disk) (path : Path) : Place := path.names.foldl follow (disk.start path)

-- The places through which names lead, the first and the last one with them.
def passes (here : Place) : List String → List Place
  | [] => [here]
  | name :: rest => here :: passes (follow here name) rest

def route (disk : Disk) (path : Path) : List Place := passes (disk.start path) path.names

theorem passes_append (here : Place) (names rest : List String) : passes here names ⊆ passes here (names ++ rest) := by
  induction names generalizing here with
  | nil => cases rest <;> simp [passes]
  | cons name names ih => exact List.cons_subset_cons here (ih (follow here name))

theorem start_slash (written : path ≠ "") (disk : Disk) : disk.start (path ++ "/") = disk.start path := by
  have first : path.toList ≠ [] := fun empty => written (String.toList_eq_nil_iff.mp empty)
  obtain ⟨c, cs, same⟩ := List.exists_cons_of_ne_nil first
  rw [start, start, Path.isAbsolute, Path.isAbsolute, String.toList_append, same]
  rfl

theorem foldl_follow (descends : ".." ∉ names) : names.foldl follow here = here ++ names.filter (· != ".") := by
  induction names generalizing here with
  | nil => simp
  | cons name rest ih =>
    rw [List.mem_cons, not_or] at descends
    rw [List.foldl_cons, ih descends.2, follow, List.filter_cons]
    by_cases stays : name = "."
    · simp [stays]
    · simp [stays, Ne.symm descends.1]

theorem route_above (descends : path.Descends) (passed : spot ∈ disk.route path) : spot <+: disk.destination path := by
  have above : ∀ {here : Place} {names : List String}, ".." ∉ names → spot ∈ passes here names →
      spot <+: names.foldl follow here := by
    intro here names
    induction names generalizing here with
    | nil =>
      intro _ passed
      exact List.mem_singleton.mp passed ▸ List.prefix_rfl
    | cons name rest ih =>
      intro down passed
      rcases List.mem_cons.mp passed with rfl | later
      · rw [foldl_follow down]
        exact List.prefix_append _ _
      · exact ih (fun member => down (List.mem_cons_of_mem _ member)) later
  exact above descends passed

theorem destination_eq_place (descends : path.Descends) (disk : Disk) : disk.destination path = disk.place path :=
  foldl_follow descends

theorem start_congr (same : after.workingDirectory = before.workingDirectory) (path : Path) :
    after.start path = before.start path := by
  rw [start, start, same]

theorem place_congr (same : after.workingDirectory = before.workingDirectory) (path : Path) :
    after.place path = before.place path := by
  rw [place, place, start_congr same]

theorem destination_congr (same : after.workingDirectory = before.workingDirectory) (path : Path) :
    after.destination path = before.destination path := by
  rw [destination, destination, start_congr same]

theorem walk_destination (walked : disk.walk here names = .ok spot) : spot = names.foldl follow here := by
  induction names generalizing here with
  | nil =>
    cases walked
    rfl
  | cons name rest ih =>
    rw [walk] at walked
    rw [List.foldl_cons, follow]
    split at walked
    next stays =>
      rw [if_pos stays]
      exact ih walked
    next moves =>
      rw [if_neg moves]
      split at walked
      next up =>
        rw [if_pos up]
        exact ih walked
      next down =>
        rw [if_neg down]
        split at walked
        next => cases walked
        next =>
          split at walked
          next => cases walked
          next => cases walked
          next => exact ih walked

def Target.place : Target → Place
  | .named directory name => directory ++ [name]
  | .here directory => directory
  | .above directory => directory.dropLast
  | .root => []

theorem start_of_no_names (checked : checkPath path = .ok ()) (none : path.names = []) :
    disk.start path = [] := by
  have written : path ≠ "" := by
    rintro rfl
    cases checked
  have absolute : path.isAbsolute = true := by
    rw [← Bool.not_eq_false]
    exact fun relative => Path.names_ne_nil relative written none
  rw [start, absolute, if_pos rfl]

theorem target_destination {target : Target} (reached : disk.target path = .ok target) :
    target.place = disk.destination path := by
  simp only [Disk.target, bind, Except.bind] at reached
  split at reached
  next => cases reached
  next checked =>
    split at reached
    next empty =>
      cases reached
      have none := List.getLast?_eq_none_iff.mp empty
      rw [destination, none, start_of_no_names checked none]
      rfl
    next last found =>
      -- The names in front have been walked; the last one decides what kind of target it is.
      obtain ⟨front, parts⟩ := List.getLast?_eq_some_iff.mp found
      rw [parts, List.dropLast_concat] at reached
      split at reached
      next => cases reached
      next directory walked =>
        rw [destination, parts, List.foldl_append, List.foldl_cons, List.foldl_nil,
          ← walk_destination walked, follow]
        split at reached
        next stays =>
          cases reached
          rw [if_pos stays, Target.place]
        next moves =>
          rw [if_neg moves]
          split at reached
          next up =>
            cases reached
            rw [if_pos up, Target.place]
          next down =>
            rw [if_neg down]
            split at reached
            next => cases reached
            next =>
              cases reached
              rfl

theorem find_destination (found : disk.find path = .ok (spot, entry)) : spot = disk.destination path := by
  simp only [find, bind, Except.bind] at found
  split at found
  next => cases found
  next target reached =>
    rw [← target_destination reached]
    cases target with
    | root => cases found; rfl
    | here directory => cases found; rfl
    | above directory => cases found; rfl
    | named directory name =>
      simp only at found
      split at found
      next => cases found
      next =>
        split at found
        next => cases found
        next => cases found; rfl
      next => cases found; rfl

theorem write_destination {content : ByteArray} (written : disk.write path content = .ok after) :
    disk.entryAt (disk.destination path) ≠ some .directory ∧
      after = disk.put (disk.destination path) (.file content) := by
  simp only [write, bind, Except.bind] at written
  split at written
  next => cases written
  next target reached =>
    rw [← target_destination reached]
    cases target with
    | root => cases written
    | here directory => cases written
    | above directory => cases written
    | named directory name =>
      simp only at written
      split at written
      next => cases written
      next =>
        split at written
        next => cases written
        next free =>
          cases written
          exact ⟨free, rfl⟩

theorem makeDirectory_destination (made : disk.makeDirectory path = .ok after) :
    disk.entryAt (disk.destination path) = none ∧ after = disk.put (disk.destination path) .directory := by
  simp only [makeDirectory, bind, Except.bind] at made
  split at made
  next => cases made
  next target reached =>
    rw [← target_destination reached]
    cases target with
    | root => cases made
    | here directory => cases made
    | above directory => cases made
    | named directory name =>
      simp only at made
      split at made
      next => cases made
      next absent =>
        cases made
        exact ⟨absent, rfl⟩

section Descending

theorem find_place (descends : path.Descends) (found : disk.find path = .ok (spot, entry)) :
    spot = disk.place path :=
  destination_eq_place descends disk ▸ find_destination found

theorem write_eq {content : ByteArray} (descends : path.Descends)
    (written : disk.write path content = .ok after) :
    after = disk.put (disk.place path) (.file content) :=
  destination_eq_place descends disk ▸ (write_destination written).2

theorem makeDirectory_eq (descends : path.Descends) (made : disk.makeDirectory path = .ok after) :
    disk.entryAt (disk.place path) = none ∧ after = disk.put (disk.place path) .directory :=
  destination_eq_place descends disk ▸ makeDirectory_destination made

end Descending

end Disk

end ClientGen
