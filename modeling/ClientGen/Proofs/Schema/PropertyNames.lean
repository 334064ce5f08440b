import ClientGen.Proofs.Json.DistinctKeys
import ClientGen.Proofs.Schema.Blocks
import Mathlib.Data.List.Nodup

namespace ClientGen

def Api.Model.propertyNames (m : Api.Model) : List String := m.properties.map (·.name)

namespace Schema

open Api

variable {rules : NameRules} {name key : String} {block definition : Json}

def blockKeys (block : Json) : List String := (blockFields block).keys

-- The objects in which a definition can declare properties: itself and the members of its composition.
def declaringBlocks (definition : Json) : List Json := definition :: (definition.list "allOf").getD []

def declaredKeys (definition : Json) : List String := (declaringBlocks definition).flatMap blockKeys

-- The model has every declared property once, and no other.
def ListsEachOnce (definition : Json) (m : Model) : Prop :=
  ∀ key, m.propertyNames.count key = if key ∈ declaredKeys definition then 1 else 0

section Counting

variable {blocks : List Json} {names wanted : List String}

theorem count_blocks (distinct : ∀ block ∈ blocks, (blockKeys block).Nodup) (key : String) :
    (blocks.flatMap blockKeys).count key = blocks.countP fun block => key ∈ blockKeys block := by
  induction blocks with
  | nil => rfl
  | cons block rest ih =>
    rw [List.forall_mem_cons] at distinct
    rw [List.flatMap_cons, List.count_append, ih distinct.2, List.countP_cons, distinct.1.count, Nat.add_comm]
    simp

theorem each_once_iff : (∀ key, names.count key = if key ∈ wanted then 1 else 0) ↔
    names.Nodup ∧ ∀ key, key ∈ names ↔ key ∈ wanted := by
  constructor
  · intro counted
    constructor
    · rw [List.nodup_iff_count_le_one]
      intro key
      rw [counted key]
      split <;> omega
    · intro key
      rw [← List.count_pos_iff, counted key]
      split <;> simp_all
  · rintro ⟨distinct, same⟩ key
    rw [distinct.count, if_congr (same key) rfl rfl]

end Counting

section Distinct

theorem nodup_blockKeys (distinct : block.distinctKeys = true) : (blockKeys block).Nodup := by
  unfold blockKeys blockFields
  cases found : block.fields "properties" with
  | none => exact List.nodup_nil
  | some fields =>
    have object := Json.distinctKeys_get? distinct (Json.get?_of_fields found)
    exact (Json.distinctKeys_obj.mp object).1

theorem distinctKeys_declaring (distinct : definition.distinctKeys = true)
    (declaring : block ∈ declaringBlocks definition) : block.distinctKeys = true := by
  rcases List.mem_cons.mp declaring with rfl | member
  · exact distinct
  · obtain ⟨members, composed, listed⟩ := mem_getD member
    have list := Json.distinctKeys_get? distinct (Json.get?_of_list composed)
    exact Json.distinctKeys_arr.mp list block listed

end Distinct

theorem names_ownProperties (rules : NameRules) (block : Json) :
    (ownProperties rules block).map (·.name) = blockKeys block := by
  rw [ownProperties, List.map_map]
  rfl

theorem names_modelOf (rules : NameRules) (name : String) (definition : Json) :
    (modelOf rules name definition).propertyNames = (inlineBlocks definition).flatMap blockKeys := by
  rw [Model.propertyNames, properties_modelOf, List.map_flatMap]
  exact List.flatMap_congr fun block _ => names_ownProperties rules block

theorem inlineBlocks_subset (definition : Json) : inlineBlocks definition ⊆ declaringBlocks definition := by
  intro block inline
  cases composed : definition.list "allOf" with
  | some members =>
    rw [inlineBlocks_composed composed] at inline
    rw [declaringBlocks, composed]
    exact List.mem_cons_of_mem _ (List.mem_of_mem_filter inline)
  | none =>
    rw [inlineBlocks_single composed] at inline
    rw [declaringBlocks, composed]
    exact inline

theorem mem_declared_of_listed (listed : key ∈ (inlineBlocks definition).flatMap blockKeys) :
    key ∈ declaredKeys definition := by
  obtain ⟨block, inline, declared⟩ := List.mem_flatMap.mp listed
  exact List.mem_flatMap.mpr ⟨block, inlineBlocks_subset definition inline, declared⟩

theorem nodup_inline (distinct : definition.distinctKeys = true) :
    ∀ block ∈ inlineBlocks definition, (blockKeys block).Nodup := by
  intro block inline
  exact nodup_blockKeys (distinctKeys_declaring distinct (inlineBlocks_subset definition inline))

theorem listsEachOnce_iff (distinct : definition.distinctKeys = true) :
    ListsEachOnce definition (modelOf rules name definition) ↔
      (∀ key ∈ declaredKeys definition, ∃ block ∈ inlineBlocks definition, key ∈ blockKeys block) ∧
      (inlineBlocks definition).Pairwise fun one other => ∀ key ∈ blockKeys one, key ∉ blockKeys other := by
  rw [ListsEachOnce, names_modelOf, each_once_iff, List.nodup_flatMap]
  constructor
  · rintro ⟨⟨_, apart⟩, same⟩
    exact ⟨fun key declared => List.mem_flatMap.mp ((same key).mpr declared), apart⟩
  · rintro ⟨covered, apart⟩
    refine ⟨⟨nodup_inline distinct, apart⟩, fun key => ⟨mem_declared_of_listed, ?_⟩⟩
    exact fun declared => List.mem_flatMap.mpr (covered key declared)

theorem listsEachOnce_single (distinct : definition.distinctKeys = true)
    (single : definition.list "allOf" = none) : ListsEachOnce definition (modelOf rules name definition) := by
  rw [listsEachOnce_iff distinct, inlineBlocks_single single, declaredKeys, declaringBlocks, single,
    Option.getD_none]
  exact ⟨fun key declared => List.mem_flatMap.mp declared, List.pairwise_singleton _ _⟩

theorem properties_listed_once_iff (rules : NameRules) (name : String) (definition : Json)
    (unlisted : definition.list "enum" = none) (distinct : definition.distinctKeys = true) :
    ∃ m, modelOf? rules (name, definition) = some m ∧
      (∀ key, m.propertyNames.count key =
        (inlineBlocks definition).countP fun block => key ∈ blockKeys block) ∧
      (ListsEachOnce definition m ↔
        (∀ key ∈ declaredKeys definition, ∃ block ∈ inlineBlocks definition, key ∈ blockKeys block) ∧
        (inlineBlocks definition).Pairwise fun one other => ∀ key ∈ blockKeys one, key ∉ blockKeys other) ∧
      (definition.list "allOf" = none → ListsEachOnce definition m) := by
  refine ⟨modelOf rules name definition, ?_, ?_, listsEachOnce_iff distinct, ?_⟩
  · rw [modelOf?, unlisted]
    rfl
  · intro key
    rw [names_modelOf]
    exact count_blocks (nodup_inline distinct) key
  · exact listsEachOnce_single distinct

def declaring (names : List String) : String × Json :=
  ("properties", .obj (names.map fun name => (name, .obj [("type", .str "string")])))

def referring (target : String) : String × Json := ("$ref", .str ("#/definitions/" ++ target))

-- What the definition declares beside its members is declared by one of them as well.
def admin : Json :=
  .obj [("allOf", .arr [.obj [referring "Entity"], .obj [declaring ["role", "rights"]],
    .obj [declaring ["manager"]]]), declaring ["rights"]]

theorem properties_listed_once_admin :
    admin.list "enum" = none ∧ admin.distinctKeys = true ∧
    ∃ m, modelOf? .standard ("Admin.User", admin) = some m ∧
      m.propertyNames = ["role", "rights", "manager"] ∧ ListsEachOnce admin m := by
  have unlisted : admin.list "enum" = none := rfl
  have distinct : admin.distinctKeys = true := by decide
  obtain ⟨m, made, _, iff, _⟩ := properties_listed_once_iff .standard "Admin.User" admin unlisted distinct
  have same : modelOf .standard "Admin.User" admin = m := Option.some.inj made
  refine ⟨unlisted, distinct, m, made, ?_, ?_⟩
  · rw [← same, names_modelOf]
    decide
  · rw [iff]
    exact ⟨by decide, by decide⟩

-- Properties beside the members of a composition, beside a reference in a member, and in two members.
def litter : Fields :=
  [("Dog", .obj [("allOf", .arr [.obj [referring "Pet"]]), declaring ["breed"]]),
    ("Puppy", .obj [("allOf", .arr [.obj [referring "Dog", declaring ["age"]]])]),
    ("Cub", .obj [("allOf", .arr [.obj [declaring ["id"]], .obj [declaring ["id"]]])])]

theorem properties_lost_and_repeated :
    (litter.filterMap (modelOf? .standard)).map (fun m => (m.name, m.propertyNames)) =
      [("Dog", []), ("Puppy", []), ("Cub", ["id", "id"])] ∧
    litter.map (fun schema => declaredKeys schema.2) = [["breed"], ["age"], ["id", "id"]] ∧
    ∀ schema ∈ litter, schema.2.list "enum" = none ∧ schema.2.distinctKeys = true ∧
      ∀ m, modelOf? .standard schema = some m → ¬ ListsEachOnce schema.2 m := by
  refine ⟨by decide +kernel, by decide, ?_⟩
  have unlisted : ∀ schema ∈ litter, schema.2.list "enum" = none := by decide
  have distinct : ∀ schema ∈ litter, schema.2.distinctKeys = true := by decide
  have broken : ∀ schema ∈ litter,
      ¬ ((∀ key ∈ declaredKeys schema.2, ∃ block ∈ inlineBlocks schema.2, key ∈ blockKeys block) ∧
        (inlineBlocks schema.2).Pairwise fun one other => ∀ key ∈ blockKeys one, key ∉ blockKeys other) := by
    decide
  rintro ⟨name, definition⟩ member
  refine ⟨unlisted _ member, distinct _ member, ?_⟩
  intro m made once
  simp only [modelOf?, Option.ite_none_left_eq_some, Option.some.injEq] at made
  obtain ⟨_, rfl⟩ := made
  exact broken _ member ((listsEachOnce_iff (distinct _ member)).mp once)

end Schema

end ClientGen
