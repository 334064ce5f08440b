import ClientGen.Action

namespace ClientGen.Output

-- A client below its output directory: helpers in `base`, types in `model`, and one file for each
-- controller in `api`.
structure Folder where
  root : Path
  deriving DecidableEq, Repr, Inhabited

inductive BaseMode where
  | fresh
  | regenerate
  | keep
  deriving DecidableEq, Repr, Inhabited

namespace Folder

def baseDirectory (folder : Folder) : Path := Path.join folder.root "base"
def modelDirectory (folder : Folder) : Path := Path.join folder.root "model"
def apiDirectory (folder : Folder) : Path := Path.join folder.root "api"

def basePath (folder : Folder) : Path := Path.join folder.baseDirectory "useAxios.ts"
def modelPath (folder : Folder) : Path := Path.join folder.modelDirectory "index.ts"

def controllerPath (folder : Folder) (controller : String) : Path :=
  Path.join folder.apiDirectory (controller ++ ".ts")

def hasBase (folder : Folder) (disk : Disk) : Bool := disk.isDirectory folder.baseDirectory

def removeIfThere (path : Path) : Action Unit := do
  if (← get).exists? path then Action.removeDirectory path

-- Removes what an earlier run has left and makes the output directory. A new run removes nothing; one
-- that keeps the base removes the rest. The answer tells whether the base has to be written.
def makeReady (folder : Folder) (mode : BaseMode) : Action Bool := do
  let writeBase ← match mode with
    | .fresh => pure true
    | .regenerate => do
      removeIfThere folder.root
      pure true
    | .keep => do
      removeIfThere folder.apiDirectory
      removeIfThere folder.modelDirectory
      pure !((← get).isFile folder.basePath)
  Action.makeDirectories folder.root
  pure writeBase

end Folder

end ClientGen.Output
