import ClientGen.CommandLine.Run
import ClientGen.CommandLine.Usage
import ClientGen.Disk.Change

namespace ClientGen.Main

open CommandLine

def pathOf (place : Place) : Path := Path.ofSteps true place

def look (place : Place) : IO (Option Entry) := do
  let path := (← IO.currentDir) / pathOf place
  try
    match (← path.metadata).type with
    | .dir => pure (some .directory)
    | .file => pure (some (.file (← IO.FS.readBinFile path)))
    | _ => pure none
  catch _ => pure none

-- Takes all that a directory holds. A link to a directory is not followed: it counts as an empty file,
-- so that removing it leaves alone what it leads to.
partial def takeBelow (directory : Place) (disk : Disk) : IO Disk := do
  let children ← ((← IO.currentDir) / pathOf directory).readDir
  children.foldlM (fun disk child => do
    let place := directory ++ [child.fileName]
    let add := fun (entry : Entry) => { disk with entries := (place, entry) :: disk.entries }
    match ← look place, (← child.path.symlinkMetadata).type with
    | some .directory, .dir => takeBelow place (add .directory)
    | some (.file content), _ => pure (add (.file content))
    | _, _ => pure (add (.file .empty))) (disk.clear directory)

def takeWay (whole : Bool) (here : Place) : List String → Disk → IO Disk
  | [], disk => if whole then takeBelow here disk else pure disk
  | name :: rest, disk => do
    if name = "." then takeWay whole here rest disk
    else if name = ".." then takeWay whole here.dropLast rest disk
    else
      let place := here ++ [name]
      match ← look place with
      | some .directory => takeWay whole place rest (disk.put place .directory)
      | some (.file content) => pure (disk.put place (.file content))
      | none => pure disk

def take (whole : Bool) (disk : Disk) (path : Path) : IO Disk :=
  match Disk.checkPath path with
  | .ok () => takeWay whole (disk.start path) path.names disk
  | .error _ => pure disk

def startDisk : IO Disk := do
  let place := Path.names (← IO.currentDir).toString
  takeWay false [] place { workingDirectory := place, entries := [] }

def takeEntries (configs : List Config) (disk : Disk) : IO Disk := do
  let disk ← (configs.map (·.outPath)).foldlM (take true) disk
  let templates := (configs.filterMap (·.templateDirectory?)).flatMap Template.Library.searched
  let disk ← templates.foldlM (take true) disk
  let locations := (configs.map (·.swaggerUrl)).filter fun location => !Url.isWeb location
  locations.foldlM (take false) disk

def takeOptions (options : Options) : IO Disk := do
  let disk ← (options.value? "config").toList.foldlM (take false) (← startDisk)
  match options.entries disk with
  | .ok configs => takeEntries configs disk
  | .error _ => pure disk

def makeChange : Disk.Change → IO Unit
  | .removeFile place => IO.FS.removeFile (pathOf place)
  | .removeDirectory place => IO.FS.removeDir (pathOf place)
  | .makeDirectory place => IO.FS.createDir (pathOf place)
  | .writeFile place content => IO.FS.writeBinFile (pathOf place) content

def report (outcome : Outcome) : IO Unit := do
  outcome.log.forM fun record => IO.println (record.level.name ++ " " ++ record.message)
  outcome.failure.forM fun message => IO.eprintln ("Error: " ++ message)

end ClientGen.Main

open ClientGen ClientGen.CommandLine in
def main (arguments : List String) : IO UInt32 := do
  let disk ← match request? arguments with
    | some (.generate options) => Main.takeOptions options
    | some .information => do
      IO.print usage
      pure .empty
    | none => do
      IO.eprint usage
      pure .empty
  let (outcome, after) := run arguments disk
  (disk.changes after).forM Main.makeChange
  Main.report outcome
  return UInt32.ofNat outcome.code
