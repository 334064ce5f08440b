import ClientGen.Controllers.Parameters

namespace ClientGen

open Api

def operationDescription (op : Operation) : String :=
  let texts := (["summary", "description"].filterMap op.body.string).map Text.singleLine
  (texts.find? (· ≠ "")).getD noDescription

-- The type of the response with status 200. Other responses are not modelled.
def resultType (rules : NameRules) (doc : Document) (op : Operation) : TypeUse :=
  match ((op.body.get? "responses").bind (·.get? "200")).bind doc.target? with
  | none => .any
  | some response =>
    match doc.edition with
    | .openApi3 =>
      match response.fields "content" with
      | some content => Schema.typeOf rules (contentSchema content)
      | none => .any
    | .swagger2 => Schema.typeOf rules (response.get? "schema")

def located (location : Location) (parameters : List Parameter) : List Parameter :=
  parameters.filter (·.location == location)

def Operation.method (rules : NameRules) (doc : Document) (op : Operation) (name : String) :
    Method :=
  let parameters := operationParameters rules doc op
  { name
    url := op.url
    verb := op.verb
    description := operationDescription op
    parameters := optionalLast (parameters.filter (·.location != .header))
    query := located .query parameters
    body := located .body parameters
    formData := located .formData parameters
    header := located .header parameters
    path := located .path parameters
    response := resultType rules doc op }

def Api.Method.types (m : Method) : List TypeUse :=
  (m.body ++ m.path ++ m.query ++ m.formData ++ m.header).map (·.type) ++ [m.response]

def Api.Method.references (m : Method) : List String := m.types.filterMap (·.model)

end ClientGen
