import ClientGen.Disk.Basic

namespace ClientGen

namespace Disk

def maxName : Nat := 255
def maxPath : Nat := 4096

def walk (disk : Disk) (here : Place) : List String → Except DiskFault Place
  | [] => .ok here
  | name :: rest =>
    if name = "." then walk disk here rest
    else if name = ".." then walk disk here.dropLast rest
    else if maxName < name.utf8ByteSize then .error .nameTooLong
    else
      match disk.entryAt (here ++ [name]) with
      | none => .error .noSuchEntry
      | some (.file _) => .error .notADirectory
      | some .directory => walk disk (here ++ [name]) rest

def start (disk : Disk) (path : Path) : Place :=
  if path.isAbsolute then [] else disk.workingDirectory

def checkPath (path : Path) : Except DiskFault Unit :=
  if path.toList.contains '\x00' then .error .nulInPath
  else if path = "" then .error .noSuchEntry
  else if maxPath ≤ path.utf8ByteSize then .error .nameTooLong
  else .ok ()

inductive Target where
  | named (directory : Place) (name : String)
  | here (directory : Place)
  | above (directory : Place)
  | root
  deriving DecidableEq, Repr, Inhabited

def target (disk : Disk) (path : Path) : Except DiskFault Target := do
  checkPath path
  match path.names.getLast? with
  | none => pure .root
  | some last =>
    let directory ← disk.walk (disk.start path) path.names.dropLast
    if last = "." then pure (.here directory)
    else if last = ".." then pure (.above directory)
    else if maxName < last.utf8ByteSize then throw .nameTooLong
    else pure (.named directory last)

def find (disk : Disk) (path : Path) : Except DiskFault (Place × Entry) := do
  match ← disk.target path with
  | .root => pure ([], .directory)
  | .here directory => pure (directory, .directory)
  | .above directory => pure (directory.dropLast, .directory)
  | .named directory name =>
    let place := directory ++ [name]
    match disk.entryAt place with
    | none => throw .noSuchEntry
    | some (.file content) =>
      if path.endsInSlash then throw .notADirectory else pure (place, .file content)
    | some .directory => pure (place, .directory)

def exists? (disk : Disk) (path : Path) : Bool := (disk.find path).toOption.isSome

def isDirectory (disk : Disk) (path : Path) : Bool :=
  match disk.find path with
  | .ok (_, .directory) => true
  | _ => false

def isFile (disk : Disk) (path : Path) : Bool :=
  match disk.find path with
  | .ok (_, .file _) => true
  | _ => false

def read (disk : Disk) (path : Path) : Except DiskFault String := do
  match (← disk.find path).2 with
  | .directory => throw .isADirectory
  | .file content =>
    match String.fromUTF8? content with
    | some text => pure text
    | none => throw .notText

def write (disk : Disk) (path : Path) (content : ByteArray) : Except DiskFault Disk := do
  match ← disk.target path with
  | .named directory name =>
    if path.endsInSlash then throw .isADirectory
    match disk.entryAt (directory ++ [name]) with
    | some .directory => throw .isADirectory
    | _ => pure (disk.put (directory ++ [name]) (.file content))
  | _ => throw .isADirectory

def makeDirectory (disk : Disk) (path : Path) : Except DiskFault Disk := do
  match ← disk.target path with
  | .named directory name =>
    match disk.entryAt (directory ++ [name]) with
    | some _ => throw .alreadyExists
    | none => pure (disk.put (directory ++ [name]) .directory)
  | _ => throw .alreadyExists

-- Makes one directory. Where its parent is missing, `parents` makes that first. A directory that is
-- there already is fine.
def makeAfter (parents : Disk → Except DiskFault Unit × Disk) (path : Path) (disk : Disk) :
    Except DiskFault Unit × Disk :=
  let settle := fun (disk : Disk) (fault : DiskFault) =>
    if disk.isDirectory path then (.ok (), disk) else (.error fault, disk)
  match disk.makeDirectory path with
  | .ok disk => (.ok (), disk)
  | .error .noSuchEntry =>
    match parents disk with
    | (.error fault, disk) => (.error fault, disk)
    | (.ok (), disk) =>
      match disk.makeDirectory path with
      | .ok disk => (.ok (), disk)
      | .error fault => settle disk fault
  | .error fault => settle disk fault

def makeSteps (absolute : Bool) : List String → Disk → Except DiskFault Unit × Disk
  | [], disk => (.ok (), disk)
  | step :: before, disk =>
    makeAfter (makeSteps absolute before) (Path.ofSteps absolute (step :: before).reverse) disk

def makeDirectories (path : Path) (disk : Disk) : Except DiskFault Unit × Disk :=
  if path = "" then (.ok (), disk)
  else makeAfter (makeSteps path.isAbsolute path.steps.reverse.tail) path disk

-- Removes a directory with all that it holds. What it holds goes first, so that a directory that cannot
-- be removed itself is left empty.
def removeDirectory (path : Path) (disk : Disk) : Except DiskFault Unit × Disk :=
  match disk.find path with
  | .error fault => (.error fault, disk)
  | .ok (_, .file _) => (.error .notADirectory, disk)
  | .ok (place, .directory) =>
    let cleared := disk.clear place
    match cleared.target path with
    | .error fault => (.error fault, cleared)
    | .ok (.named ..) => (.ok (), disk.prune place)
    | .ok (.above _) => (.error .notEmpty, cleared)
    | .ok _ => (.error .invalidArgument, cleared)

def below? (disk : Disk) (place : Place) : Option (List String) :=
  if disk.workingDirectory.isPrefixOf place && place != disk.workingDirectory then
    some (place.drop disk.workingDirectory.length)
  else none

def filesBelow (disk : Disk) (place : Place) : List (List String × ByteArray) :=
  disk.entries.filterMap fun (p, entry) =>
    match entry with
    | .file content =>
      if place.isPrefixOf p && p != place then some (p.drop place.length, content) else none
    | .directory => none

end Disk

end ClientGen
