import ClientGen.Disk.Basic

namespace ClientGen.Disk

inductive Change where
  | removeFile (place : Place)
  -- What the directory holds is removed before.
  | removeDirectory (place : Place)
  -- The directory above it is there.
  | makeDirectory (place : Place)
  | writeFile (place : Place) (content : ByteArray)
  deriving Inhabited

def removal? (before after : Disk) (place : Place) : Option Change :=
  match before.entryAt place, after.entryAt place with
  | some .directory, some .directory => none
  | some (.file _), some (.file _) => none
  | some .directory, _ => some (.removeDirectory place)
  | some (.file _), _ => some (.removeFile place)
  | none, _ => none

def addition? (before after : Disk) (place : Place) : Option Change :=
  match after.entryAt place, before.entryAt place with
  | some .directory, some .directory => none
  | some .directory, _ => some (.makeDirectory place)
  | some (.file content), some (.file old) =>
    if content.data == old.data then none else some (.writeFile place content)
  | some (.file content), _ => some (.writeFile place content)
  | none, _ => none

def placesByDepth (disk : Disk) : List Place :=
  (disk.entries.map (·.1)).mergeSort fun a b => decide (a.length ≤ b.length)

-- The changes in an order in which each can be made.
def changes (before after : Disk) : List Change :=
  before.placesByDepth.reverse.filterMap (removal? before after) ++
    after.placesByDepth.filterMap (addition? before after)

end ClientGen.Disk
