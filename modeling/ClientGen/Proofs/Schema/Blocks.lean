import ClientGen.Proofs.Json.Occurrence
import ClientGen.Schema.Declarations
import Mathlib.Data.List.Basic
import Mathlib.Data.List.Forall2

namespace ClientGen.Schema

open Api

variable {rules : NameRules} {name : String} {block definition : Json} {members : List Json}

def blockFields (block : Json) : Fields := (block.fields "properties").getD []

-- The objects that a model takes its properties from: the members of a composition that are no references,
-- or the definition itself if it is none.
def inlineBlocks (definition : Json) : List Json :=
  match definition.list "allOf" with
  | some members => members.filter fun member => (member.string "$ref").isNone
  | none => [definition]

def Requires (block : Json) (name : String) : Prop :=
  ∃ names, block.list "required" = some names ∧ Json.str name ∈ names

-- The property that a field of a block stands for. What it is depends on the field and its own block alone.
structure Yields (rules : NameRules) (block : Json) (field : String × Json) (p : Property) : Prop where
  name : p.name = field.1
  description : p.description = field.2.description
  type : p.type = typeOf rules (some field.2)
  explicit : ∀ b, (field.2.flag "nullable").or (field.2.flag "x-nullable") = some b → p.nullable = b
  implied : (field.2.flag "nullable").or (field.2.flag "x-nullable") = none →
    (p.nullable = true ↔ ¬ Requires block field.1)

section Block

theorem mem_requiredNames : name ∈ requiredNames block ↔ Requires block name := by
  unfold requiredNames Requires
  constructor
  · intro member
    obtain ⟨value, listed, text⟩ := List.mem_filterMap.mp member
    obtain ⟨names, found, within⟩ := mem_getD listed
    cases value with
    | str s =>
      obtain rfl := Option.some.inj text
      exact ⟨names, found, within⟩
    | _ => cases text
  · rintro ⟨names, found, within⟩
    rw [found]
    exact List.mem_filterMap.mpr ⟨_, within, rfl⟩

theorem explicitNullable_eq (fragment : Json) :
    explicitNullable fragment = (fragment.flag "nullable").or (fragment.flag "x-nullable") := by
  unfold explicitNullable
  cases first : fragment.flag "nullable" with
  | some b => simp only [List.findSome?_cons, first, Option.some_or]
  | none =>
    cases second : fragment.flag "x-nullable" <;> simp [first, second]

theorem yields_propertyOf (rules : NameRules) (block : Json) (field : String × Json) :
    Yields rules block field (propertyOf rules (requiredNames block) field.1 field.2) where
  name := rfl
  description := rfl
  type := rfl
  explicit b said := by
    rw [← explicitNullable_eq] at said
    rw [propertyOf, said]
    rfl
  implied unsaid := by
    rw [← explicitNullable_eq] at unsaid
    rw [propertyOf, unsaid, Option.getD_none, ← mem_requiredNames]
    simp

theorem ownProperties_yielded (rules : NameRules) (block : Json) :
    List.Forall₂ (Yields rules block) (blockFields block) (ownProperties rules block) := by
  unfold ownProperties
  rw [List.forall₂_map_right_iff]
  exact List.forall₂_same.mpr fun field _ => yields_propertyOf rules block field

end Block

section Composition

theorem inlineBlocks_composed (composed : definition.list "allOf" = some members) :
    inlineBlocks definition = members.filter fun member => (member.string "$ref").isNone := by
  rw [inlineBlocks, composed]

theorem inlineBlocks_single (single : definition.list "allOf" = none) :
    inlineBlocks definition = [definition] := by
  rw [inlineBlocks, single]

theorem properties_composed (composed : definition.list "allOf" = some members) :
    (modelOf rules name definition).properties = memberProperties rules members := by
  rw [modelOf, composed]

theorem properties_single (single : definition.list "allOf" = none) :
    (modelOf rules name definition).properties = ownProperties rules definition := by
  rw [modelOf, single]

theorem base_composed (composed : definition.list "allOf" = some members) :
    (modelOf rules name definition).base = baseOf rules members := by
  rw [modelOf, composed]

theorem memberProperties_cons (rules : NameRules) (member : Json) (rest : List Json) :
    memberProperties rules (member :: rest) =
      (if (member.string "$ref").isSome then [] else ownProperties rules member) ++
        memberProperties rules rest := List.flatMap_cons

theorem memberProperties_append (rules : NameRules) (first second : List Json) :
    memberProperties rules (first ++ second) =
      memberProperties rules first ++ memberProperties rules second := List.flatMap_append

theorem memberProperties_eq (rules : NameRules) (members : List Json) : memberProperties rules members =
    (members.filter fun member => (member.string "$ref").isNone).flatMap (ownProperties rules) := by
  induction members with
  | nil => rfl
  | cons member rest ih =>
    rw [memberProperties_cons, ih]
    cases named : member.string "$ref" with
    | some target => simp [named]
    | none => simp [named]

theorem properties_modelOf (rules : NameRules) (name : String) (definition : Json) :
    (modelOf rules name definition).properties = (inlineBlocks definition).flatMap (ownProperties rules) := by
  cases composed : definition.list "allOf" with
  | some members => rw [properties_composed composed, inlineBlocks_composed composed, memberProperties_eq]
  | none => rw [properties_single composed, inlineBlocks_single composed, List.flatMap_singleton]

-- The last reference gives the base, so those of the later members go before the earlier ones.
theorem baseOf_append (rules : NameRules) (first second : List Json) :
    baseOf rules (first ++ second) = (baseOf rules second).or (baseOf rules first) := by
  unfold baseOf
  rw [List.filterMap_append, List.getLast?_append, Option.map_or]

theorem baseOf_eq_none_iff :
    baseOf rules members = none ↔ ∀ member ∈ members, member.string "$ref" = none := by
  rw [baseOf, Option.map_eq_none_iff, List.getLast?_eq_none_iff, List.filterMap_eq_nil_iff]

theorem baseOf_append_of_some {first second : List Json}
    (named : ∃ member ∈ second, (member.string "$ref").isSome) :
    baseOf rules (first ++ second) = baseOf rules second := by
  obtain ⟨member, within, reference⟩ := named
  rw [baseOf_append]
  cases base : baseOf rules second with
  | some model => rfl
  | none =>
    rw [baseOf_eq_none_iff.mp base member within] at reference
    cases reference

theorem baseOf_append_of_none {first second : List Json}
    (unnamed : ∀ member ∈ second, member.string "$ref" = none) :
    baseOf rules (first ++ second) = baseOf rules first := by
  rw [baseOf_append, baseOf_eq_none_iff.mpr unnamed, Option.none_or]

theorem blocks_flattened (rules : NameRules) :
    (∀ name (A B : List Json) (whole first second : Json), whole.list "allOf" = some (A ++ B) →
      first.list "allOf" = some A → second.list "allOf" = some B →
        (modelOf rules name whole).properties =
          (modelOf rules name first).properties ++ (modelOf rules name second).properties ∧
        ((∃ member ∈ B, (member.string "$ref").isSome) →
          (modelOf rules name whole).base = (modelOf rules name second).base) ∧
        ((∀ member ∈ B, member.string "$ref" = none) →
          (modelOf rules name whole).base = (modelOf rules name first).base)) ∧
    ∀ block, ∃ part, List.Forall₂ (Yields rules block) (blockFields block) part ∧
      (block.list "allOf" = none → ∀ name, (modelOf rules name block).properties = part) ∧
      (block.string "$ref" = none → ∀ name (A B : List Json) (whole first second : Json),
        whole.list "allOf" = some (A ++ block :: B) → first.list "allOf" = some A →
        second.list "allOf" = some B → (modelOf rules name whole).properties =
          (modelOf rules name first).properties ++ part ++ (modelOf rules name second).properties) := by
  constructor
  · intro name A B whole first second composed former latter
    rw [properties_composed composed, properties_composed former, properties_composed latter,
      base_composed composed, base_composed former, base_composed latter]
    exact ⟨memberProperties_append rules A B, baseOf_append_of_some, baseOf_append_of_none⟩
  · intro block
    refine ⟨ownProperties rules block, ownProperties_yielded rules block, ?_, ?_⟩
    · intro single name
      exact properties_single single
    · intro inline name A B whole first second composed former latter
      rw [properties_composed composed, properties_composed former, properties_composed latter,
        memberProperties_append, memberProperties_cons, inline, List.append_assoc]
      rfl

-- A reference with properties of its own and a block, then another block and another reference. Both blocks
-- have an `id`, which only the first of them requires; the definition itself requires `owner` in vain.
def earlierParts : List Json :=
  [.obj [("$ref", .str "#/definitions/Pet"), ("properties", .obj [("lost", .obj [])])],
    .obj [("required", .arr [.str "id"]), ("properties", .obj [("id", .obj [("type", .str "integer")]),
      ("owner", .obj [("type", .str "array"), ("items", .obj [("$ref", .str "#/definitions/Owner")])])])]]

def laterBlock : Json :=
  .obj [("properties", .obj [("id", .obj [("type", .str "string"), ("x-nullable", .bool true)]),
    ("chip", .obj [("type", .str "string"), ("nullable", .bool false), ("x-nullable", .bool true)])])]

def laterParts : List Json := [laterBlock, .obj [("$ref", .str "#/definitions/Fish")]]

def composedOf (members : List Json) : Json :=
  .obj [("required", .arr [.str "owner"]), ("allOf", .arr members)]

theorem blocks_flattened_aquarium :
    let model := modelOf .standard "Aquarium"
    (model (composedOf (earlierParts ++ laterParts))).properties =
      (model (composedOf earlierParts)).properties ++ (model (composedOf laterParts)).properties ∧
    (model (composedOf (earlierParts ++ laterParts))).base = (model (composedOf laterParts)).base ∧
    (∃ part, List.Forall₂ (Yields .standard laterBlock) (blockFields laterBlock) part ∧
      (model (composedOf (earlierParts ++ laterParts))).properties =
        (model (composedOf earlierParts)).properties ++ part ++
          (model (composedOf (laterParts.drop 1))).properties) ∧
    (model (composedOf (earlierParts ++ laterParts))).base = some "Fish" ∧
    (model (composedOf (earlierParts ++ laterParts))).properties.map
        (fun p => (p.name, p.type.text, p.nullable)) =
      [("id", "number", false), ("owner", "Array<Owner>", true), ("id", "string", true),
        ("chip", "string", false)] := by
  intro model
  obtain ⟨joined, each⟩ := blocks_flattened .standard
  obtain ⟨properties, base, _⟩ := joined "Aquarium" earlierParts laterParts
    (composedOf (earlierParts ++ laterParts)) (composedOf earlierParts) (composedOf laterParts) rfl rfl rfl
  obtain ⟨part, yielded, _, placed⟩ := each laterBlock
  have inside := placed rfl "Aquarium" earlierParts (laterParts.drop 1)
    (composedOf (earlierParts ++ laterParts)) (composedOf earlierParts) (composedOf (laterParts.drop 1)) rfl rfl rfl
  have named : ∃ member ∈ laterParts, (member.string "$ref").isSome :=
    ⟨_, List.mem_of_getElem? (i := 1) rfl, rfl⟩
  exact ⟨properties, base named, ⟨part, yielded, inside⟩, by decide +kernel, by decide +kernel⟩

end Composition

end ClientGen.Schema
