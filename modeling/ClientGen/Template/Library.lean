import ClientGen.Action
import ClientGen.Disk.Pattern
import ClientGen.Template.Engine

namespace ClientGen.Template

-- Named templates. `directory` is where they come from, if they are not the standard ones alone.
structure Library where
  directory : Option Path
  templates : List (String × Writer)
  deriving Inhabited

namespace Library

def standard : Library :=
  { directory := none, templates := standardTemplates.map fun (name, nodes) => (name, render? nodes) }

def template? (library : Library) (name : String) : Option Writer := library.templates.lookup name

def names (library : Library) : List String :=
  (library.templates.map (·.1)).mergeSort fun a b => decide (a ≤ b)

-- A name that counts as a pattern and not as itself.
def isPattern (name : String) : Bool := name.toList.any fun c => c == '*' || c == '{' || c == '}'

def filesThatFit (disk : Disk) (place : Place) (pattern : String) : List (Place × ByteArray) :=
  (disk.filesBelow place).filterMap fun (names, content) =>
    if Path.fits pattern names then some (place ++ names, content) else none

-- The template files of a directory, at any depth. The directory's own path counts as a pattern as well:
-- from its first star on it stands for all paths that fit it, and a brace in a name before the star
-- makes that name one alternative. Names are seen from the directory in front of the first star, and a
-- path that does not lead there is left out.
def templateFiles (disk : Disk) (directory : Path) : List (List String × ByteArray) :=
  let cs := (directory ++ "/**/*.tera").toList
  let front := String.ofList (cs.takeWhile (· != '*'))
  let back := String.ofList (cs.dropWhile (· != '*'))
  let (start, found) :=
    match disk.find front with
    | .ok (start, _) =>
      let names := start ++ (Path.names back).filter (· != ".")
      let place := names.takeWhile fun name => !isPattern name
      (start, filesThatFit disk place ("/".intercalate (names.drop place.length)))
    | .error _ =>
      (disk.workingDirectory, filesThatFit disk disk.workingDirectory (Path.join front back))
  found.filterMap fun (place, content) =>
    if start.isPrefixOf place then some (place.drop start.length, content) else none

-- Where `templateFiles` looks: in the directory, and if its path has a star, in front of that or, where
-- that leads nowhere, in the working directory.
def searched (directory : Path) : List Path :=
  let cs := String.toList directory
  if cs.contains '*' then [directory, String.ofList (cs.takeWhile (· != '*')), "."] else [directory]

-- The name of a template is the way to its file. A backslash counts as a slash.
def fileName (names : List String) : String :=
  String.ofList (("/".intercalate names).toList.map fun c => if c == '\\' then '/' else c)

def files (disk : Disk) : Option Path → Except Failure (List (String × ByteArray))
  | none => .ok []
  | some directory =>
    match disk.find directory with
    | .ok (_, .directory) =>
      .ok ((templateFiles disk directory).map fun (names, content) => (fileName names, content))
    | _ => .error (.template (.directoryNotFound directory))

def missing (files : List (String × ByteArray)) : List String :=
  standardNames.filter fun name => !(files.map (·.1)).contains name

def ofFiles (engine : Engine) (directory : Option Path) (files : List (String × ByteArray)) :
    Except Failure Library :=
  match engine.read? files (missing files) with
  | some writer =>
    .ok {
      directory
      templates := (files.map (·.1) ++ missing files).map fun name => (name, writer name) }
  | none => .error .templateText

def load (disk : Disk) (directory : Option Path) (engine : Engine := .standard) :
    Except Failure Library := do
  ofFiles engine directory (← files disk directory)

-- The text that a template writes in a context, which has to be an object.
def render (library : Library) (name : String) (context : Json) : Except Failure String :=
  match context with
  | .obj fields =>
    match library.template? name with
    | none => .error (.template (.notFound name))
    | some writer =>
      match writer fields with
      | some text => .ok text
      | none => .error (.template (.notRendered name))
  | _ => .error (.template (.contextNotAnObject name))

-- Renders first, so that a template that fails leaves the disk as it was.
def renderTo (library : Library) (name : String) (context : Json) (path : Path) : Action Unit := do
  let text ← Action.ofExcept (library.render name context)
  Action.writeBelow path text.toUTF8

end Library

end ClientGen.Template
