import ClientGen.Api.Encode
import ClientGen.Json.Decode

namespace ClientGen.Api

def TypeUse.ofJson? (value : Json) : Option TypeUse := do
  let field ← value.record? ["kind", "rendered", "referenced_model"]
  let sort ← (field "kind").bind (Json.oneOf? TypeSort.name TypeSort.all)
  let text ← (field "rendered").bind Json.str?
  let model ← Json.optional? Json.str? (field "referenced_model")
  pure { sort, text, model }

def Info.ofJson? (value : Json) : Option Info := do
  let field ← value.record? ["title", "description", "version"]
  let title ← (field "title").bind Json.str?
  let description ← (field "description").bind Json.str?
  let version ← (field "version").bind Json.str?
  pure { title, description, version }

def Property.ofJson? (value : Json) : Option Property := do
  let field ← value.record? ["name", "description", "data_type", "nullable"]
  let name ← (field "name").bind Json.str?
  let description ← (field "description").bind Json.str?
  let type ← (field "data_type").bind TypeUse.ofJson?
  let nullable ← (field "nullable").bind Json.bool?
  pure { name, description, type, nullable }

def Model.ofJson? (value : Json) : Option Model := do
  let field ← value.record? ["name", "description", "base_model", "properties", "is_parameter"]
  let name ← (field "name").bind Json.str?
  let description ← (field "description").bind Json.str?
  let base ← Json.optional? Json.str? (field "base_model")
  let properties ← (field "properties").bind (Json.listOf? Property.ofJson?)
  let isExchanged ← (field "is_parameter").bind Json.bool?
  pure { name, description, base, properties, isExchanged }

def EnumValue.ofJson? (value : Json) : Option EnumValue := do
  let field ← value.record? ["name", "value", "literal"]
  let name ← (field "name").bind Json.str?
  let number ← Json.optional? Json.float? (field "value")
  let literal ← (field "literal").bind Json.str?
  pure { name, value := number, literal }

def Enum.ofJson? (value : Json) : Option Enum := do
  let field ← value.record? ["name", "description", "items"]
  let name ← (field "name").bind Json.str?
  let description ← (field "description").bind Json.str?
  let items ← (field "items").bind (Json.listOf? EnumValue.ofJson?)
  pure { name, description, items }

def Parameter.ofJson? (value : Json) : Option Parameter := do
  let field ← value.record?
    ["name", "camel_case_name", "description", "location", "required", "default", "data_type"]
  let name ← (field "name").bind Json.str?
  let identifier ← (field "camel_case_name").bind Json.str?
  let description ← (field "description").bind Json.str?
  let location ← (field "location").bind (Json.oneOf? Location.name Location.all)
  let required ← (field "required").bind Json.bool?
  let default ← Json.optional? some (field "default")
  let type ← (field "data_type").bind TypeUse.ofJson?
  pure { name, identifier, description, location, required, default, type }

def Method.ofJson? (value : Json) : Option Method := do
  let field ← value.record?
    ["name", "url", "verb", "description", "parameters", "parameters_query", "parameters_body",
      "parameters_form_data", "parameters_header", "parameters_path", "response"]
  let list := fun key => (field key).bind (Json.listOf? Parameter.ofJson?)
  let name ← (field "name").bind Json.str?
  let url ← (field "url").bind Json.str?
  let verb ← (field "verb").bind (Json.oneOf? Verb.name Verb.all)
  let description ← (field "description").bind Json.str?
  let parameters ← list "parameters"
  let query ← list "parameters_query"
  let body ← list "parameters_body"
  let formData ← list "parameters_form_data"
  let header ← list "parameters_header"
  let path ← list "parameters_path"
  let response ← (field "response").bind TypeUse.ofJson?
  pure
    { name, url, verb, description, parameters, query, body, formData, header, path, response }

def Controller.ofJson? (value : Json) : Option Controller := do
  let field ← value.record? ["name", "description", "methods", "import_models"]
  let name ← (field "name").bind Json.str?
  let description ← (field "description").bind Json.str?
  let methods ← (field "methods").bind (Json.listOf? Method.ofJson?)
  let imports ← (field "import_models").bind (Json.listOf? Json.str?)
  pure { name, description, methods, imports }

end ClientGen.Api

namespace ClientGen

def Api.ofJson? (value : Json) : Option Api := do
  let field ← value.record? ["base_info", "controllers", "models", "enums"]
  let info ← (field "base_info").bind Api.Info.ofJson?
  let controllers ← (field "controllers").bind (Json.listOf? Api.Controller.ofJson?)
  let models ← (field "models").bind (Json.listOf? Api.Model.ofJson?)
  let enums ← (field "enums").bind (Json.listOf? Api.Enum.ofJson?)
  pure { info, controllers, models, enums }

end ClientGen
