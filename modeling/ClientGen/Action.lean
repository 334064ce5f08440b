import ClientGen.Disk.Access
import ClientGen.Failure

namespace ClientGen

abbrev Action (α : Type) := ExceptT Failure (StateM Disk) α

namespace Action

def ofExcept : Except Failure α → Action α
  | .ok a => pure a
  | .error failure => throw failure

def ask (look : Disk → Except DiskFault α) : Action α := do
  ofExcept ((look (← get)).mapError .disk)

-- An operation that gives a new disk, or fails and changes nothing.
def change (step : Disk → Except DiskFault Disk) : Action Unit := do
  set (← ask step)

-- An operation that gives a new disk in any case.
def attempt (step : Disk → Except DiskFault Unit × Disk) : Action Unit := do
  let (result, disk) := step (← get)
  set disk
  ofExcept (result.mapError .disk)

def read (path : Path) : Action String := ask (·.read path)

def write (path : Path) (text : String) : Action Unit := change (·.write path text.toUTF8)

def makeDirectories (path : Path) : Action Unit := attempt (Disk.makeDirectories path)

def removeDirectory (path : Path) : Action Unit := attempt (Disk.removeDirectory path)

def writeBelow (path : Path) (content : ByteArray) : Action Unit := do
  match path.parent? with
  | some parent => makeDirectories parent
  | none => pure ()
  change (·.write path content)

end Action

end ClientGen
