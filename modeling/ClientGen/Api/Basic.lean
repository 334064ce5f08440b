import ClientGen.Json.Printer

namespace ClientGen

namespace Api

def noDescription : String := "No description provided"

inductive TypeSort where
  | primitive
  | reference
  | array
  | enum
  deriving DecidableEq, Repr, Inhabited

-- A type as it appears in client code. `model` is the model that it names, directly or as the element of
-- a list.
structure TypeUse where
  sort : TypeSort
  text : String
  model : Option String
  deriving DecidableEq, Repr, Inhabited

namespace TypeUse

def plain (text : String) : TypeUse := ⟨.primitive, text, none⟩

def void : TypeUse := plain "void"

def any : TypeUse := plain "any"

def unknown : TypeUse := plain "boolean"

def named (model : String) : TypeUse := ⟨.reference, model, some model⟩

def list (element : TypeUse) : TypeUse :=
  ⟨.array, "Array<" ++ element.text ++ ">", element.model⟩

def literals (values : List Json) : TypeUse :=
  ⟨.enum, " | ".intercalate (values.map Json.text), none⟩

end TypeUse

structure Info where
  title : String
  description : String
  version : String
  deriving DecidableEq, Repr, Inhabited

structure Property where
  name : String
  description : String
  type : TypeUse
  nullable : Bool
  deriving DecidableEq, Repr, Inhabited

-- An object type. `isExchanged` says whether some operation takes or returns it.
structure Model where
  name : String
  description : String
  base : Option String
  properties : List Property
  isExchanged : Bool
  deriving DecidableEq, Repr, Inhabited

-- A member of an enumeration: its display name, the number that the value stands for if there is one,
-- and the value as text.
structure EnumValue where
  name : String
  value : Option Binary64
  literal : String
  deriving DecidableEq, Repr, Inhabited

structure Enum where
  name : String
  description : String
  items : List EnumValue
  deriving DecidableEq, Repr, Inhabited

inductive Location where
  | query
  | body
  | formData
  | header
  | path
  deriving DecidableEq, Repr, Inhabited

def Location.name : Location → String
  | .query => "query"
  | .body => "body"
  | .formData => "formData"
  | .header => "header"
  | .path => "path"

def Location.all : List Location := [.query, .body, .formData, .header, .path]

def Location.ofName? (name : String) : Option Location := Location.all.find? (·.name == name)

-- A parameter of a method. `identifier` names it in client code.
structure Parameter where
  name : String
  identifier : String
  description : String
  location : Location
  required : Bool
  default : Option Json
  type : TypeUse
  deriving Inhabited

inductive Verb where
  | get
  | put
  | post
  | delete
  | options
  | head
  | patch
  | trace
  deriving DecidableEq, Repr, Inhabited

def Verb.name : Verb → String
  | .get => "get"
  | .put => "put"
  | .post => "post"
  | .delete => "delete"
  | .options => "options"
  | .head => "head"
  | .patch => "patch"
  | .trace => "trace"

def Verb.all : List Verb := [.get, .put, .post, .delete, .options, .head, .patch, .trace]

def Verb.ofName? (name : String) : Option Verb := Verb.all.find? (·.name == name)

-- An operation as a method of a controller. `parameters` holds all but the headers, the required ones
-- first; the other lists hold the parameters of one location each.
structure Method where
  name : String
  url : String
  verb : Verb
  description : String
  parameters : List Parameter
  query : List Parameter
  body : List Parameter
  formData : List Parameter
  header : List Parameter
  path : List Parameter
  response : TypeUse
  deriving Inhabited

structure Controller where
  name : String
  description : String
  methods : List Method
  imports : List String
  deriving Inhabited

end Api

structure Api where
  info : Api.Info
  controllers : List Api.Controller
  models : List Api.Model
  enums : List Api.Enum
  deriving Inhabited

namespace Api

def controller? (api : Api) (name : String) : Option Controller :=
  api.controllers.find? (·.name == name)

def model? (api : Api) (name : String) : Option Model := api.models.find? (·.name == name)

def enum? (api : Api) (name : String) : Option Enum := api.enums.find? (·.name == name)

theorem Verb.ofName?_name (v : Verb) : Verb.ofName? v.name = some v := by
  cases v <;> decide

end Api

end ClientGen
