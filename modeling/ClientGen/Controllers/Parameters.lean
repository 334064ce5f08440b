import ClientGen.Controllers.Operation
import ClientGen.FreshName
import ClientGen.Schema.TypeOf

namespace ClientGen

open Api

def nameAndPlace (fragment : Json) : Option String × Option String :=
  (fragment.string "name", fragment.string "in")

def identifierOf (name : String) : String :=
  match name with
  | "number" => Text.camelCase "num"
  | "string" => Text.camelCase "str"
  | other => Text.camelCase other

def defaultOf (fragment : Json) : Option Json :=
  match fragment.get? "default" with
  | some value => some value
  | none => (fragment.get? "schema").bind (·.get? "default")

def locationOf? (fragment : Json) : Option Location :=
  Location.ofName? ((fragment.string "in").getD "")

def Api.Parameter.ofJson (rules : NameRules) (taken : List String) (location : Location)
    (fragment : Json) : Parameter :=
  let name := (fragment.string "name").getD ""
  { name
    identifier := freshName (identifierOf name) taken
    description := fragment.description
    location
    required := (fragment.flag "required").getD false
    default := defaultOf fragment
    type := Schema.typeOf rules (some fragment) }

-- Parameters in processing order. Objects without a known location are left out.
def parametersFrom (rules : NameRules) (taken : List String) : List Json → List Parameter
  | [] => []
  | fragment :: rest =>
    match locationOf? fragment with
    | none => parametersFrom rules taken rest
    | some location =>
      let parameter := Parameter.ofJson rules taken location fragment
      parameter :: parametersFrom rules (taken ++ [parameter.identifier]) rest

-- The schema of the JSON media type, or of the first one where JSON is not declared.
def contentSchema (content : Fields) : Option Json :=
  let media := match content.lookup "application/json" with
    | some media => some media
    | none => content.head?.map Prod.snd
  media.bind (·.get? "schema")

def unnamedBody : String := "input"

def orNoDescription (text : String) : String := if text = "" then noDescription else text

def ofRequestBody (body : Json) : Json :=
  .obj [
    ("name", .str ((body.string "x-name").getD unnamedBody)),
    ("in", .str Location.body.name),
    ("required", .bool ((body.flag "required").getD true)),
    ("description", .str (orNoDescription body.description)),
    ("schema", ((body.fields "content").bind contentSchema).getD .null)]

def requestBody (doc : Document) (op : Operation) : List Json :=
  match doc.edition with
  | .swagger2 => []
  | .openApi3 =>
    (((op.body.get? "requestBody").bind doc.target?).map ofRequestBody).toList

def ownParameters (doc : Document) (op : Operation) : List Json :=
  ((op.body.list "parameters").getD []).filterMap doc.target?

def inheritedParameters (doc : Document) (op : Operation) : List Json :=
  let own := (ownParameters doc op).map nameAndPlace
  (op.shared.filterMap doc.target?).filter fun fragment => !own.contains (nameAndPlace fragment)

-- Parameter objects in processing order: the request body, what the path declares for all its
-- operations, what the operation declares.
def parameterObjects (doc : Document) (op : Operation) : List Json :=
  requestBody doc op ++ inheritedParameters doc op ++ ownParameters doc op

def operationParameters (rules : NameRules) (doc : Document) (op : Operation) :
    List Parameter :=
  parametersFrom rules [] (parameterObjects doc op)

def optionalLast (parameters : List Parameter) : List Parameter :=
  parameters.filter (·.required) ++ parameters.filter fun p => !p.required

end ClientGen
