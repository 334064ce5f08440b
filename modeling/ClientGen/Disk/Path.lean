namespace ClientGen

abbrev Path := String

namespace Path

def splitNames (current : List Char) : List Char → List String
  | [] => if current.isEmpty then [] else [String.ofList current.reverse]
  | c :: rest =>
    if c == '/' then
      if current.isEmpty then splitNames [] rest
      else String.ofList current.reverse :: splitNames [] rest
    else splitNames (c :: current) rest

def names (path : Path) : List String := splitNames [] path.toList

def isAbsolute (path : Path) : Bool := path.toList.head? == some '/'

def endsInSlash (path : Path) : Bool := path.toList.getLast? == some '/'

def join (base child : Path) : Path :=
  if isAbsolute child then child
  else if base = "" || endsInSlash base then base ++ child
  else base ++ "/" ++ child

def steps (path : Path) : List String :=
  match names path with
  | [] => []
  | name :: rest =>
    let kept := rest.filter (· != ".")
    if name = "." && isAbsolute path then kept else name :: kept

def ofSteps (absolute : Bool) (steps : List String) : Path :=
  (if absolute then "/" else "") ++ "/".intercalate steps

def parent? (path : Path) : Option Path :=
  match steps path with
  | [] => none
  | step :: rest => some (ofSteps (isAbsolute path) (step :: rest).dropLast)

def extension? (path : Path) : Option String :=
  match (steps path).getLast? with
  | none => none
  | some name =>
    let cs := name.toList
    let after := (cs.reverse.takeWhile (· != '.')).reverse
    if name = ".." || name = "." || cs.length ≤ after.length + 1 then none
    else some (String.ofList after)

end Path

end ClientGen
