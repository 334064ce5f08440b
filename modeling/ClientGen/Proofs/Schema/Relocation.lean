import ClientGen.Proofs.Json.Fields
import ClientGen.Proofs.Schema.TypeOf
import ClientGen.Proofs.Text.Segment
import ClientGen.Schema.Declarations
import Mathlib.Data.List.Basic

namespace ClientGen

-- New spellings of references, which end in the same names as the old ones.
structure Relocation where
  spell : String → String
  keepsName : ∀ reference, Text.lastSegment (spell reference) = Text.lastSegment reference

namespace Relocation

open Api

-- From where Swagger 2 keeps the named schemas to where OpenAPI 3 keeps them.
def toComponents : Relocation where
  spell reference :=
    match "#/definitions/".toList.isPrefixOf? reference.toList with
    | some name => "#/components/schemas" ++ "/" ++ String.ofList name
    | none => reference
  keepsName reference := by
    split
    · rename_i name found
      have parts := List.isPrefixOf?_eq_some_iff_append_eq.mp found
      have old : "#/definitions" ++ "/" ++ String.ofList name = reference := by
        rw [← String.toList_inj, ← parts]
        simp
      rw [Text.lastSegment_append, ← old, Text.lastSegment_append]
    · rfl

mutual

-- A schema with new references. Values that are no schemas, such as defaults, stay as they are.
def schema (r : Relocation) : Json → Json
  | .obj fields => .obj (r.parts fields)
  | other => other

def parts (r : Relocation) : List (String × Json) → List (String × Json)
  | [] => []
  | (key, value) :: rest => (key, r.part key value) :: r.parts rest

def part (r : Relocation) (key : String) : Json → Json
  | .str reference => .str (if key = "$ref" then r.spell reference else reference)
  | .arr items => .arr (if key ∈ ["oneOf", "anyOf", "allOf"] then r.members items else items)
  | .obj fields =>
    if key ∈ ["items", "schema", "additionalProperties"] then .obj (r.parts fields)
    else if key = "properties" then .obj (r.named fields)
    else .obj fields
  | other => other

def members (r : Relocation) : List Json → List Json
  | [] => []
  | value :: rest => r.schema value :: r.members rest

def named (r : Relocation) : List (String × Json) → List (String × Json)
  | [] => []
  | (name, value) :: rest => (name, r.schema value) :: r.named rest

end

variable (r : Relocation) {rules : NameRules}

theorem parts_eq (fields : Fields) : r.parts fields = fields.rewrite r.part := by
  induction fields with
  | nil => rfl
  | cons field rest ih =>
    rw [parts, ih]
    rfl

theorem members_eq (items : List Json) : r.members items = items.map r.schema := by
  induction items with
  | nil => rfl
  | cons value rest ih => rw [members, ih, List.map_cons]

theorem named_eq (fields : Fields) : r.named fields = fields.rewrite fun _ => r.schema := by
  induction fields with
  | nil => rfl
  | cons field rest ih =>
    rw [named, ih]
    rfl

theorem schema_get? (value : Json) (key : String) :
    (r.schema value).get? key = (value.get? key).map (r.part key) := by
  cases value with
  | obj fields =>
    rw [schema, parts_eq]
    exact Fields.lookup_rewrite r.part fields key
  | _ => rfl

def referring : List String :=
  ["$ref", "oneOf", "anyOf", "allOf", "items", "schema", "additionalProperties", "properties"]

theorem part_other (key : String) (other : key ∉ referring) (value : Json) : r.part key value = value := by
  simp only [referring, List.mem_cons, List.not_mem_nil, or_false, not_or] at other
  cases value <;> simp [part, other]

theorem schema_other (key : String) (other : key ∉ referring) (value : Json) :
    (r.schema value).get? key = value.get? key := by
  rw [schema_get?]
  cases value.get? key with
  | none => rfl
  | some inner => rw [Option.map_some, r.part_other key other]

theorem string_other (key : String) (other : key ∉ referring) (value : Json) :
    (r.schema value).string key = value.string key := by
  rw [Json.string, r.schema_other key other, Json.string]

theorem list_other (key : String) (other : key ∉ referring) (value : Json) :
    (r.schema value).list key = value.list key := by
  rw [Json.list, r.schema_other key other, Json.list]

theorem flag_other (key : String) (other : key ∉ referring) (value : Json) :
    (r.schema value).flag key = value.flag key := by
  rw [Json.flag, r.schema_other key other, Json.flag]

theorem description_schema (value : Json) : (r.schema value).description = value.description := by
  rw [Json.description, r.string_other "description" (by decide), Json.description]

theorem schema_list (key : String) (composed : key ∈ ["oneOf", "anyOf", "allOf"]) (value : Json) :
    (r.schema value).list key = (value.list key).map (·.map r.schema) := by
  rw [Json.list, schema_get?, Json.list]
  cases value.get? key with
  | none => rfl
  | some inner =>
    cases inner with
    | arr items => simp only [Option.map_some, Option.bind_some, part, if_pos composed, members_eq, Json.arr?]
    | obj fields =>
      simp only [Option.map_some, Option.bind_some, part]
      split_ifs <;> rfl
    | _ => rfl

theorem schema_inner (key : String) (inner : key ∈ ["items", "schema"]) (value : Json) :
    (r.schema value).get? key = (value.get? key).map r.schema := by
  have same : r.part key = r.schema := by
    simp only [List.mem_cons, List.not_mem_nil, or_false] at inner
    funext value
    rcases inner with rfl | rfl <;> cases value <;> rfl
  rw [schema_get?, same]

theorem schema_reference (value : Json) :
    (r.schema value).string "$ref" = (value.string "$ref").map r.spell := by
  rw [Json.string, schema_get?, Json.string]
  cases value.get? "$ref" with
  | none => rfl
  | some inner => cases inner <;> rfl

theorem schema_properties (value : Json) :
    (r.schema value).fields "properties" =
      (value.fields "properties").map (Fields.rewrite fun _ => r.schema) := by
  rw [Json.fields, schema_get?, Json.fields]
  cases value.get? "properties" with
  | none => rfl
  | some inner =>
    cases inner with
    | obj fields => exact congrArg some (r.named_eq fields)
    | _ => rfl

theorem ofReference_spell (reference : String) :
    rules.ofReference (r.spell reference) = rules.ofReference reference := by
  rw [NameRules.ofReference, NameRules.ofReference, r.keepsName]

def form : Schema.Form → Schema.Form
  | .alternatives first => .alternatives (first.map r.schema)
  | .combined first => .combined (first.map r.schema)
  | .carried inner => .carried (r.schema inner)
  | .reference target => .reference (r.spell target)
  | .list items => .list (items.map r.schema)
  | other => other

theorem form_ofType (value : Json) :
    Schema.Form.ofType (r.schema value) = r.form (Schema.Form.ofType value) := by
  unfold Schema.Form.ofType
  rw [r.string_other "type" (by decide), r.schema_inner "items" (by decide)]
  split
  · rfl
  · rename_i name _ _
    cases Schema.Primitive.ofName? name <;> rfl
  · rfl

-- The keywords are looked at in the same order on both sides, and the same one decides.
theorem form_ofJson (value : Json) :
    Schema.Form.ofJson (r.schema value) = r.form (Schema.Form.ofJson value) := by
  unfold Schema.Form.ofJson
  rw [r.schema_list "oneOf" (by decide), r.schema_list "anyOf" (by decide),
    r.schema_list "allOf" (by decide), r.schema_inner "schema" (by decide),
    r.schema_reference, r.list_other "enum" (by decide), form_ofType]
  cases value.list "oneOf" with
  | some members => exact congrArg Schema.Form.alternatives List.head?_map
  | none =>
  cases value.list "anyOf" with
  | some members => exact congrArg Schema.Form.alternatives List.head?_map
  | none =>
  cases value.list "allOf" with
  | some members => exact congrArg Schema.Form.combined List.head?_map
  | none =>
  cases value.get? "schema" with
  | some inner => rfl
  | none =>
  cases value.string "$ref" with
  | some target => rfl
  | none =>
  cases value.list "enum" with
  | some values => rfl
  | none => rfl

theorem form_of (fragment : Option Json) :
    Schema.Form.of (fragment.map r.schema) = r.form (Schema.Form.of fragment) := by
  cases fragment with
  | none => rfl
  | some value =>
    cases value with
    | null => rfl
    | obj fields => exact r.form_ofJson (.obj fields)
    | _ => rfl

theorem typeOf_schema (fragment : Option Json) :
    Schema.typeOf rules (fragment.map r.schema) = Schema.typeOf rules fragment := by
  rw [Schema.typeOf_eq, Schema.typeOf_eq, form_of]
  cases form : Schema.Form.of fragment with
  | alternatives first => exact typeOf_schema first
  | combined first => exact typeOf_schema first
  | carried inner => exact typeOf_schema (some inner)
  | list items => exact congrArg TypeUse.list (typeOf_schema items)
  | reference target => exact congrArg TypeUse.named (r.ofReference_spell target)
  | _ => rfl
termination_by sizeOf fragment
decreasing_by all_goals exact Schema.Form.sizeOf_next? (by rw [form]; rfl)

theorem typeOf_some (value : Json) :
    Schema.typeOf rules (some (r.schema value)) = Schema.typeOf rules (some value) :=
  r.typeOf_schema (some value)

theorem enumOf?_schema (name : String) (value : Json) :
    Schema.enumOf? rules (name, r.schema value) = Schema.enumOf? rules (name, value) := by
  have display : Schema.displayNames (r.schema value) = Schema.displayNames value := by
    simp only [Schema.displayNames, Schema.displayNameKeys, List.findSome?_cons, List.findSome?_nil,
      r.list_other "x-enumNames" (by decide),
      r.list_other "x-enum-varnames" (by decide)]
  have enum : Schema.enumOf rules name (r.schema value) = Schema.enumOf rules name value := by
    funext values
    rw [Schema.enumOf, r.description_schema, display, Schema.enumOf]
  rw [Schema.enumOf?, r.list_other "enum" (by decide), enum, Schema.enumOf?]

theorem propertyOf_schema (required : List String) (name : String) (value : Json) :
    Schema.propertyOf rules required name (r.schema value) =
      Schema.propertyOf rules required name value := by
  have nullable : Schema.explicitNullable (r.schema value) = Schema.explicitNullable value := by
    simp only [Schema.explicitNullable, List.findSome?_cons, List.findSome?_nil,
      r.flag_other "nullable" (by decide), r.flag_other "x-nullable" (by decide)]
  simp only [Schema.propertyOf, r.description_schema, r.typeOf_some, nullable]

theorem ownProperties_schema (value : Json) :
    Schema.ownProperties rules (r.schema value) = Schema.ownProperties rules value := by
  have required : Schema.requiredNames (r.schema value) = Schema.requiredNames value := by
    rw [Schema.requiredNames, r.list_other "required" (by decide), Schema.requiredNames]
  rw [Schema.ownProperties, r.schema_properties, required, Schema.ownProperties]
  cases value.fields "properties" with
  | none => rfl
  | some properties =>
    simp only [Option.map_some, Option.getD_some, Fields.rewrite, List.map_map]
    exact List.map_congr_left fun property _ => r.propertyOf_schema _ property.1 property.2

theorem memberProperties_schema (members : List Json) :
    Schema.memberProperties rules (members.map r.schema) = Schema.memberProperties rules members := by
  rw [Schema.memberProperties, Schema.memberProperties, List.flatMap_map]
  apply List.flatMap_congr
  intro value _
  rw [r.schema_reference, Option.isSome_map, r.ownProperties_schema]

theorem baseOf_schema (members : List Json) :
    Schema.baseOf rules (members.map r.schema) = Schema.baseOf rules members := by
  have references : (members.map r.schema).filterMap (·.string "$ref") =
      (members.filterMap (·.string "$ref")).map r.spell := by
    rw [List.filterMap_map, List.map_filterMap]
    exact List.filterMap_congr fun value _ => r.schema_reference value
  rw [Schema.baseOf, references, Schema.baseOf, List.getLast?_map, Option.map_map]
  exact congrArg (Option.map · _) (funext r.ofReference_spell)

theorem modelOf?_schema (name : String) (value : Json) :
    Schema.modelOf? rules (name, r.schema value) = Schema.modelOf? rules (name, value) := by
  have model : Schema.modelOf rules name (r.schema value) = Schema.modelOf rules name value := by
    rw [Schema.modelOf, r.schema_list "allOf" (by decide), Schema.modelOf]
    cases value.list "allOf" with
    | none => simp only [Option.map_none, r.description_schema, r.ownProperties_schema]
    | some members =>
      simp only [Option.map_some, r.description_schema, r.baseOf_schema, r.memberProperties_schema]
  rw [Schema.modelOf?, r.list_other "enum" (by decide), model, Schema.modelOf?]

end Relocation

end ClientGen
