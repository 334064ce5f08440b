import ClientGen.Document.Basic
import ClientGen.Number.Read
import ClientGen.Schema.TypeOf

namespace ClientGen.Schema

open Api

def literalText : Json → String
  | .str s => s
  | value => value.text

def numberOf? : Json → Option Binary64
  | .num n => some n.toBinary64
  | .str s =>
    if Text.isBlankText s then some (Binary64.zero false)
    else (Binary64.read? (Text.trimChars s.toList)).filter Binary64.isFinite
  | .bool b => some (if b then Binary64.ofNat 1 else Binary64.zero false)
  | .null => some (Binary64.zero false)
  | .arr _ => none
  | .obj _ => none

def displayNameKeys : List String := ["x-enumNames", "x-enum-varnames"]

def displayNames (definition : Json) : List Json :=
  (displayNameKeys.findSome? definition.list).getD []

def EnumValue.ofValue (value : Json) (display : Option Json) : EnumValue :=
  { name := (display.map literalText).getD (literalText value)
    value := numberOf? value
    literal := literalText value }

def enumItems : List Json → List Json → List EnumValue
  | [], _ => []
  | value :: values, names =>
    EnumValue.ofValue value names.head? :: enumItems values names.tail

def enumOf (rules : NameRules) (name : String) (definition : Json) (values : List Json) : Enum :=
  { name := rules.model name
    description := definition.description
    items := enumItems values (displayNames definition) }

def requiredNames (block : Json) : List String :=
  ((block.list "required").getD []).filterMap Json.str?

def explicitNullable (property : Json) : Option Bool :=
  ["nullable", "x-nullable"].findSome? property.flag

def propertyOf (rules : NameRules) (required : List String) (name : String) (fragment : Json) :
    Property :=
  { name
    description := fragment.description
    type := typeOf rules (some fragment)
    nullable := (explicitNullable fragment).getD (!required.contains name) }

-- The properties that a schema declares inline, in order. Only its own list of required names counts for
-- them.
def ownProperties (rules : NameRules) (block : Json) : List Property :=
  ((block.fields "properties").getD []).map fun (name, fragment) =>
    propertyOf rules (requiredNames block) name fragment

def memberProperties (rules : NameRules) (members : List Json) : List Property :=
  members.flatMap fun member =>
    if (member.string "$ref").isSome then [] else ownProperties rules member

def baseOf (rules : NameRules) (members : List Json) : Option String :=
  (members.filterMap (·.string "$ref")).getLast?.map rules.ofReference

def modelOf (rules : NameRules) (name : String) (definition : Json) : Model :=
  match definition.list "allOf" with
  | some members =>
    { name := rules.model name
      description := definition.description
      base := baseOf rules members
      properties := memberProperties rules members
      isExchanged := false }
  | none =>
    { name := rules.model name
      description := definition.description
      base := none
      properties := ownProperties rules definition
      isExchanged := false }

structure Declarations where
  models : List Model
  enums : List Enum
  deriving Inhabited

def enumOf? (rules : NameRules) : String × Json → Option Enum
  | (name, definition) => (definition.list "enum").map (enumOf rules name definition)

def modelOf? (rules : NameRules) : String × Json → Option Model
  | (name, definition) =>
    if (definition.list "enum").isSome then none else some (modelOf rules name definition)

def declarations (rules : NameRules) (doc : Document) : Declarations :=
  let schemas := doc.schemas.getD []
  { models := schemas.filterMap (modelOf? rules)
    enums := schemas.filterMap (enumOf? rules) }

end ClientGen.Schema
