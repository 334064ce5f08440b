import ClientGen.Api.OfDocument
import ClientGen.Proofs.Schema.Relocation

namespace ClientGen.Upgrade

open Api

variable (r : Relocation)

def isBody (parameter : Json) : Bool := parameter.string "in" == some "body"

-- These keys of a parameter mean the same in both editions. The others describe its type.
def commonKeys : List String := ["name", "in", "required", "description"]

def schemaOf (parameter : Fields) : Json :=
  .obj (Fields.only (fun key => !commonKeys.contains key) parameter)

def parameter : Json → Json
  | .obj fields => .obj (Fields.only commonKeys.contains fields ++ [("schema", r.schema (schemaOf fields))])
  | other => other

-- The content of a body or a response, as JSON. Without a schema the media type is empty.
def content (schema : Option Json) : Fields :=
  [("application/json", .obj (schema.map fun s => ("schema", r.schema s)).toList)]

def bodyOf (parameter : Json) : Json :=
  .obj [
    ("x-name", (parameter.get? "name").getD .null),
    ("required", (parameter.get? "required").getD .null),
    ("description", (parameter.get? "description").getD .null),
    ("content", .obj (content r (parameter.get? "schema")))]

def response : Json → Json
  | .obj fields =>
    let others := Fields.only (fun key => key ≠ "schema" && key ≠ "content") fields
    .obj (others ++ [("content", .obj (content r (fields.lookup "schema")))])
  | other => other

def responsePart (key : String) (value : Json) : Json :=
  if key = "200" then response r value else value

def responses : Json → Json
  | .obj fields => .obj (Fields.rewrite (responsePart r) fields)
  | other => other

def parameters : Json → Json
  | .arr items => .arr ((items.filter fun p => !isBody p).map (parameter r))
  | other => other

def operationPart (key : String) (value : Json) : Json :=
  if key = "parameters" then parameters r value
  else if key = "responses" then responses r value
  else value

def operation : Json → Json
  | .obj fields =>
    let items := ((fields.lookup "parameters").bind Json.arr?).getD []
    let body := (items.find? isBody).map fun p => ("requestBody", bodyOf r p)
    .obj (Fields.rewrite (operationPart r) fields ++ body.toList)
  | other => other

def pathPart (key : String) (value : Json) : Json :=
  if (Verb.ofName? key).isSome then operation r value else value

def pathItem : Json → Json
  | .obj fields => .obj (Fields.rewrite (pathPart r) fields)
  | other => other

def paths : Json → Json
  | .obj items => .obj (Fields.rewrite (fun _ item => pathItem r item) items)
  | other => other

-- Named schemas are read like properties: each value is a schema, whatever its key.
def components (definitions : Json) : Json := .obj [("schemas", r.part "properties" definitions)]

def documentPart (key : String) (value : Json) : Json :=
  if key = "paths" then paths r value else value

def document (version : Json) (doc : Document) : Document :=
  let fields := doc.root.obj?.getD []
  let kept := Fields.rewrite (documentPart r) (fields.only (· ≠ "definitions"))
  let schemas := (fields.lookup "definitions").map fun definitions =>
    ("components", components r definitions)
  { root := .obj (("openapi", version) :: kept ++ schemas.toList) }

def isPlainObject (value : Json) : Bool := value.obj?.isSome && (value.get? "$ref").isNone

-- A body parameter has exactly these keys, and its description has more than line breaks.
def bodyFits (parameter : Json) : Bool :=
  (parameter.string "name").isSome && (parameter.flag "required").isSome &&
  (parameter.string "description").any (fun text => Text.singleLine text != "") &&
  (parameter.get? "schema").isSome &&
  (parameter.obj?.getD []).all fun field => (commonKeys ++ ["schema"]).contains field.1

-- Only the first parameter may be a body. All others say their type without a schema.
def parametersFit (items : List Json) : Bool :=
  items.all isPlainObject && items.tail.all (fun p => !isBody p) &&
  items.all fun p => if isBody p then bodyFits p else (p.get? "schema").isNone

def operationFits (body : Json) : Bool :=
  body.obj?.isSome && (body.get? "requestBody").isNone &&
  (match body.get? "parameters" with
    | none => true
    | some (.arr items) => parametersFit items
    | some _ => false) &&
  ((body.get? "responses").bind (·.get? "200")).all isPlainObject

def pathItemFits (item : Json) : Bool :=
  (item.get? "$ref").isNone && (item.get? "parameters").isNone &&
  (item.obj?.getD []).all fun field => (Verb.ofName? field.1).isNone || operationFits field.2

def fits (doc : Document) : Bool :=
  (doc.root.get? "openapi").isNone && (doc.root.get? "components").isNone &&
  (doc.paths.getD []).all fun path => pathItemFits path.2

end ClientGen.Upgrade
