import ClientGen.Document.Basic

namespace ClientGen

open Api

structure Operation where
  url : String
  verb : Verb
  body : Json
  shared : List Json
  deriving Inhabited

namespace Operation

def ofPath (doc : Document) (url : String) (item : Json) : List Operation :=
  match (doc.target? item).bind Json.obj? with
  | none => []
  | some fields =>
    fields.filterMap fun (key, body) =>
      (Verb.ofName? key).map fun verb =>
        { url, verb, body, shared := ((fields.lookup "parameters").bind Json.arr?).getD [] }

def untagged : String := "Default"

def tag (op : Operation) : String :=
  (((op.body.list "tags").bind List.head?).bind Json.str?).getD untagged

end Operation

def Document.operations (doc : Document) : List Operation :=
  (doc.paths.getD []).flatMap fun (url, item) => Operation.ofPath doc url item

end ClientGen
