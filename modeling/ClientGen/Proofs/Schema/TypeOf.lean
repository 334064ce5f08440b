import ClientGen.Proofs.Json.Occurrence
import ClientGen.Schema.TypeOf

namespace ClientGen.Schema

open Api

variable {rules : NameRules}

def Form.type (rules : NameRules) : Form → TypeUse
  | .absent => .void
  | .alternatives first => typeOf rules first
  | .combined first => typeOf rules first
  | .carried inner => typeOf rules (some inner)
  | .reference target => .named (rules.ofReference target)
  | .literals values => .literals values
  | .list items => .list (typeOf rules items)
  | .primitive type => .plain type.text
  | .unknown => .unknown

theorem typeOf_eq (rules : NameRules) (fragment : Option Json) :
    typeOf rules fragment = (Form.of fragment).type rules := by
  rw [typeOf]
  split <;> rename_i form <;> rw [form] <;> rfl

theorem typeOf_congr {a b : Option Json} (same : Form.of a = Form.of b) :
    typeOf rules a = typeOf rules b := by
  rw [typeOf_eq, typeOf_eq, same]

def formKeys : List String := ["oneOf", "anyOf", "allOf", "schema", "$ref", "enum", "type", "items"]

theorem Form.ofJson_congr {a b : Json} (same : ∀ key ∈ formKeys, a.get? key = b.get? key) :
    Form.ofJson a = Form.ofJson b := by
  have oneOf := same "oneOf" (by decide)
  have anyOf := same "anyOf" (by decide)
  have allOf := same "allOf" (by decide)
  have schema := same "schema" (by decide)
  have ref := same "$ref" (by decide)
  have enum := same "enum" (by decide)
  have type := same "type" (by decide)
  have items := same "items" (by decide)
  simp only [Form.ofJson, Form.ofType, Json.list, Json.string, oneOf, anyOf, allOf, schema, ref, enum,
    type, items]

section Keywords

variable {value inner : Json} {items : List Json}

def members? (value : Json) : Option (List Json) := ["oneOf", "anyOf", "allOf"].findSome? value.list

theorem form_present (present : value ≠ .null) : Form.of (some value) = Form.ofJson value := by
  cases value with
  | null => exact absurd rfl present
  | _ => rfl

theorem present_of_get? {key : String} (found : value.get? key = some inner) : value ≠ .null := by
  rintro rfl
  cases found

theorem present_of_string {key text : String} (found : value.string key = some text) : value ≠ .null :=
  present_of_get? (Json.string_eq_some.mp found)

theorem list_of_members? (members : members? value = some items) : ∃ key, value.list key = some items := by
  obtain ⟨key, _, found⟩ := List.exists_of_findSome?_eq_some members
  exact ⟨key, found⟩

-- The keywords of a fragment in the order in which they count.
theorem type_ofJson (rules : NameRules) (value : Json) : (Form.ofJson value).type rules =
    match members? value, value.get? "schema", value.string "$ref", value.list "enum" with
    | some items, _, _, _ => typeOf rules items.head?
    | none, some inner, _, _ => typeOf rules (some inner)
    | none, none, some target, _ => .named (rules.ofReference target)
    | none, none, none, some values => .literals values
    | none, none, none, none => (Form.ofType value).type rules := by
  unfold Form.ofJson members?
  cases oneOf : value.list "oneOf" with
  | some items => simp only [List.findSome?_cons, oneOf, Form.type]
  | none =>
  cases anyOf : value.list "anyOf" with
  | some items => simp only [List.findSome?_cons, oneOf, anyOf, Form.type]
  | none =>
  cases allOf : value.list "allOf" with
  | some items => simp only [List.findSome?_cons, oneOf, anyOf, allOf, Form.type]
  | none =>
  simp only [List.findSome?_cons, oneOf, anyOf, allOf, List.findSome?_nil]
  cases value.get? "schema" with
  | some inner => rfl
  | none =>
  cases value.string "$ref" with
  | some target => rfl
  | none =>
  cases value.list "enum" with
  | some values => rfl
  | none => rfl

theorem typeOf_member (members : members? value = some items) :
    typeOf rules (some value) = typeOf rules items.head? := by
  obtain ⟨key, listed⟩ := list_of_members? members
  rw [typeOf_eq, form_present (present_of_get? (Json.get?_of_list listed)), type_ofJson, members]

theorem typeOf_inner (single : members? value = none) (carries : value.get? "schema" = some inner) :
    typeOf rules (some value) = typeOf rules (some inner) := by
  rw [typeOf_eq, form_present (present_of_get? carries), type_ofJson, single, carries]

-- A parameter without keywords of its own hands the question on to its schema.
theorem typeOf_carried {fragment inner : Json}
    (plain : ∀ key ∈ ["oneOf", "anyOf", "allOf"], fragment.get? key = none)
    (schema : fragment.get? "schema" = some inner) :
    typeOf rules (some fragment) = typeOf rules (some inner) := by
  refine typeOf_inner ?_ schema
  unfold members?
  rw [List.findSome?_eq_none_iff]
  intro key keyword
  rw [Json.list, plain key keyword, Option.bind_none]

end Keywords

end ClientGen.Schema
