import ClientGen.Api.Basic

namespace ClientGen.Api

def TypeSort.name : TypeSort → String
  | .primitive => "primitive"
  | .reference => "reference"
  | .array => "array"
  | .enum => "enum"

def TypeSort.all : List TypeSort := [.primitive, .reference, .array, .enum]

def TypeUse.toJson (t : TypeUse) : Json :=
  .obj [
    ("kind", .str t.sort.name),
    ("rendered", .str t.text),
    ("referenced_model", Json.ofOption .str t.model)]

def Info.toJson (info : Info) : Json :=
  .obj [
    ("title", .str info.title),
    ("description", .str info.description),
    ("version", .str info.version)]

def Property.toJson (p : Property) : Json :=
  .obj [
    ("name", .str p.name),
    ("description", .str p.description),
    ("data_type", p.type.toJson),
    ("nullable", .bool p.nullable)]

def Model.toJson (m : Model) : Json :=
  .obj [
    ("name", .str m.name),
    ("description", .str m.description),
    ("base_model", Json.ofOption .str m.base),
    ("properties", .arr (m.properties.map Property.toJson)),
    ("is_parameter", .bool m.isExchanged)]

def floatToJson (x : Binary64) : Json := if x.isFinite then .num (.float x) else .null

def EnumValue.toJson (item : EnumValue) : Json :=
  .obj [
    ("name", .str item.name),
    ("value", Json.ofOption floatToJson item.value),
    ("literal", .str item.literal)]

def Enum.toJson (e : Enum) : Json :=
  .obj [
    ("name", .str e.name),
    ("description", .str e.description),
    ("items", .arr (e.items.map EnumValue.toJson))]

def Parameter.toJson (p : Parameter) : Json :=
  .obj [
    ("name", .str p.name),
    ("camel_case_name", .str p.identifier),
    ("description", .str p.description),
    ("location", .str p.location.name),
    ("required", .bool p.required),
    ("default", p.default.getD .null),
    ("data_type", p.type.toJson)]

def Method.toJson (m : Method) : Json :=
  .obj [
    ("name", .str m.name),
    ("url", .str m.url),
    ("verb", .str m.verb.name),
    ("description", .str m.description),
    ("parameters", .arr (m.parameters.map Parameter.toJson)),
    ("parameters_query", .arr (m.query.map Parameter.toJson)),
    ("parameters_body", .arr (m.body.map Parameter.toJson)),
    ("parameters_form_data", .arr (m.formData.map Parameter.toJson)),
    ("parameters_header", .arr (m.header.map Parameter.toJson)),
    ("parameters_path", .arr (m.path.map Parameter.toJson)),
    ("response", m.response.toJson)]

def Controller.toJson (c : Controller) : Json :=
  .obj [
    ("name", .str c.name),
    ("description", .str c.description),
    ("methods", .arr (c.methods.map Method.toJson)),
    ("import_models", .arr (c.imports.map .str))]

end ClientGen.Api

namespace ClientGen

def Api.toJson (api : Api) : Json :=
  .obj [
    ("base_info", api.info.toJson),
    ("controllers", .arr (api.controllers.map Api.Controller.toJson)),
    ("models", .arr (api.models.map Api.Model.toJson)),
    ("enums", .arr (api.enums.map Api.Enum.toJson))]

end ClientGen
