import ClientGen.Api.Basic
import ClientGen.Json.Pointer
import ClientGen.Text.SingleLine

namespace ClientGen

inductive Edition where
  | swagger2
  | openApi3
  deriving DecidableEq, Repr, Inhabited

structure Document where
  root : Json
  deriving Inhabited

namespace Document

open Text

-- A top-level key `openapi` tells an OpenAPI 3 document, whatever its value.
def edition (doc : Document) : Edition :=
  if (doc.root.get? "openapi").isSome then .openApi3 else .swagger2

def infoField (doc : Document) (key : String) : String :=
  (((doc.root.get? "info").bind (·.string key)).map singleLine).getD ""

def info (doc : Document) : Api.Info :=
  { title := doc.infoField "title"
    description := doc.infoField "description"
    version := doc.infoField "version" }

def schemas (doc : Document) : Option Fields :=
  match doc.edition with
  | .openApi3 => (doc.root.get? "components").bind (·.fields "schemas")
  | .swagger2 => doc.root.fields "definitions"

def paths (doc : Document) : Option Fields := doc.root.fields "paths"

structure Tag where
  name : String
  description : Option String
  deriving DecidableEq, Repr, Inhabited

def Tag.ofJson? (value : Json) : Option Tag :=
  (value.string "name").map fun name => { name, description := value.string "description" }

def tags (doc : Document) : List Tag :=
  ((doc.root.list "tags").getD []).filterMap Tag.ofJson?

def follow? (doc : Document) (reference : String) : Option Json :=
  match reference.toList with
  | '#' :: pointer => doc.root.pointer? (String.ofList pointer)
  | _ => none

-- The target of a fragment that is a reference, and any other fragment itself. One step is made: the
-- target is not looked through again.
def target? (doc : Document) (fragment : Json) : Option Json :=
  match fragment.string "$ref" with
  | some reference => doc.follow? reference
  | none => some fragment

end Document

def Json.description (fragment : Json) : String :=
  ((fragment.string "description").map Text.singleLine).getD ""

end ClientGen
