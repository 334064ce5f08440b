import ClientGen.Disk.Path

namespace ClientGen

abbrev Place := List String

inductive Entry where
  | directory
  | file (content : ByteArray)
  deriving Inhabited

inductive DiskFault where
  | noSuchEntry
  | notADirectory
  | isADirectory
  | alreadyExists
  | notEmpty
  | nameTooLong
  | nulInPath
  | invalidArgument
  | notText
  deriving DecidableEq, Repr, Inhabited

structure Disk where
  workingDirectory : Place
  entries : List (Place × Entry)
  deriving Inhabited

namespace Disk

def entryAt (disk : Disk) (place : Place) : Option Entry :=
  if place.isEmpty then some .directory else disk.entries.lookup place

def isDirectoryAt (disk : Disk) (place : Place) : Bool :=
  match disk.entryAt place with
  | some .directory => true
  | _ => false

def putEntry (place : Place) (entry : Entry) : List (Place × Entry) → List (Place × Entry)
  | [] => [(place, entry)]
  | (p, e) :: rest => if p = place then (p, entry) :: rest else (p, e) :: putEntry place entry rest

def put (disk : Disk) (place : Place) (entry : Entry) : Disk :=
  { disk with entries := putEntry place entry disk.entries }

def prune (disk : Disk) (place : Place) : Disk :=
  { disk with entries := disk.entries.filter fun (p, _) => !place.isPrefixOf p }

def clear (disk : Disk) (place : Place) : Disk :=
  { disk with entries := disk.entries.filter fun (p, _) => !(place.isPrefixOf p && p != place) }

def empty : Disk := { workingDirectory := ["work"], entries := [(["work"], .directory)] }

theorem lookup_cons_ne {place p : Place} (h : p ≠ place) (entry : Entry)
    (entries : List (Place × Entry)) :
    ((place, entry) :: entries).lookup p = entries.lookup p := by
  simp [List.lookup_cons, beq_eq_false_iff_ne.mpr h]

theorem lookup_putEntry (place : Place) (entry : Entry) (entries : List (Place × Entry))
    (p : Place) :
    (putEntry place entry entries).lookup p =
      if p = place then some entry else entries.lookup p := by
  induction entries with
  | nil =>
    by_cases h : p = place
    · simp [putEntry, h]
    · simp [putEntry, lookup_cons_ne h, h]
  | cons head rest ih =>
    obtain ⟨q, e⟩ := head
    by_cases hq : q = place
    · subst hq
      by_cases h : p = q
      · simp [putEntry, h]
      · simp [putEntry, lookup_cons_ne h, h]
    · by_cases h : p = q
      · simp [putEntry, h, hq]
      · simp [putEntry, hq, lookup_cons_ne h, ih]

theorem entryAt_put (disk : Disk) (place : Place) (entry : Entry) (p : Place) :
    (disk.put place entry).entryAt p =
      if p = [] then some .directory else if p = place then some entry else disk.entryAt p := by
  cases p <;> simp [entryAt, put, lookup_putEntry]

end Disk

end ClientGen
