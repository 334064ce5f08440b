import ClientGen.Api.OfDocument
import Mathlib.Data.List.Nodup
import Mathlib.Data.List.Perm.Basic

namespace ClientGen

open Api

def Api.declaredNames (api : Api) : List String := api.models.map (·.name) ++ api.enums.map (·.name)

section Lookup

variable {α : Type} {name : α → String} {items : List α} {item : α} {wanted : String}

theorem find?_named (distinct : (items.map name).Nodup) (member : item ∈ items) :
    items.find? (fun other => name other == name item) = some item := by
  cases found : items.find? (fun other => name other == name item) with
  | none => exact absurd BEq.rfl (List.find?_eq_none.mp found item member)
  | some other =>
    have same : name other = name item := by simpa using List.find?_some found
    rw [List.inj_on_of_nodup_map distinct (List.mem_of_find?_eq_some found) member same]

theorem find?_unnamed (absent : wanted ∉ items.map name) :
    items.find? (fun other => name other == wanted) = none := by
  rw [List.find?_eq_none]
  intro item member same
  exact absent (List.mem_map.mpr ⟨item, member, eq_of_beq same⟩)

end Lookup

namespace Schema

variable {rules : NameRules} {schema : String × Json} {schemas : Fields} {m : Model} {e : Enum}

theorem name_modelOf (rules : NameRules) (name : String) (definition : Json) :
    (modelOf rules name definition).name = rules.model name := by
  unfold modelOf
  split <;> rfl

theorem name_of_modelOf? (made : modelOf? rules schema = some m) : m.name = rules.model schema.1 := by
  obtain ⟨name, definition⟩ := schema
  simp only [modelOf?, Option.ite_none_left_eq_some, Option.some.injEq] at made
  obtain ⟨_, rfl⟩ := made
  exact name_modelOf rules name definition

theorem name_of_enumOf? (made : enumOf? rules schema = some e) : e.name = rules.model schema.1 := by
  obtain ⟨values, _, rfl⟩ := Option.map_eq_some_iff.mp made
  rfl

theorem declared_once (rules : NameRules) (schema : String × Json) :
    (∃ m, modelOf? rules schema = some m ∧ enumOf? rules schema = none) ∨
    (∃ e, modelOf? rules schema = none ∧ enumOf? rules schema = some e) := by
  obtain ⟨name, definition⟩ := schema
  cases listed : definition.list "enum" with
  | none => exact .inl ⟨_, by rw [modelOf?, listed]; rfl, by rw [enumOf?, listed]; rfl⟩
  | some values => exact .inr ⟨_, by rw [modelOf?, listed]; rfl, by rw [enumOf?, listed]; rfl⟩

theorem declared_perm (rules : NameRules) (schemas : Fields) :
    ((schemas.filterMap (modelOf? rules)).map (·.name) ++
      (schemas.filterMap (enumOf? rules)).map (·.name)).Perm (schemas.keys.map rules.model) := by
  induction schemas with
  | nil => exact .nil
  | cons schema rest ih =>
    rcases declared_once rules schema with ⟨m, made, none⟩ | ⟨e, none, made⟩
    · rw [List.filterMap_cons_some made, List.filterMap_cons_none none, List.map_cons, name_of_modelOf? made]
      exact ih.cons _
    · rw [List.filterMap_cons_none none, List.filterMap_cons_some made, List.map_cons, name_of_enumOf? made]
      exact List.perm_middle.trans (ih.cons _)

end Schema

theorem declaredNames_ofDocument (rules : NameRules) (doc : Document) :
    (Api.ofDocument rules doc).declaredNames.Perm ((doc.schemas.getD []).keys.map rules.model) := by
  have marked : (Api.ofDocument rules doc).models.map (·.name) =
      ((doc.schemas.getD []).filterMap (Schema.modelOf? rules)).map (·.name) := by
    simp [Api.ofDocument, Schema.declarations, Function.comp_def, markExchanged]
  rw [Api.declaredNames, marked]
  exact Schema.declared_perm rules _

theorem declaration_found {rules : NameRules} {doc : Document} {schema : String × Json}
    (distinct : (Api.ofDocument rules doc).declaredNames.Nodup) (named : schema ∈ doc.schemas.getD []) :
    (Api.ofDocument rules doc).model? (rules.model schema.1) =
      (Schema.modelOf? rules schema).map (markExchanged (Api.ofDocument rules doc).controllers) ∧
    (Api.ofDocument rules doc).enum? (rules.model schema.1) = Schema.enumOf? rules schema := by
  obtain ⟨models, enums, apart⟩ := List.nodup_append.mp distinct
  rcases Schema.declared_once rules schema with ⟨m, made, none⟩ | ⟨e, none, made⟩
  · have member : markExchanged (Api.ofDocument rules doc).controllers m ∈ (Api.ofDocument rules doc).models :=
      List.mem_map_of_mem (List.mem_filterMap.mpr ⟨schema, named, made⟩)
    rw [made, none, ← Schema.name_of_modelOf? made]
    refine ⟨find?_named models member, find?_unnamed fun also => ?_⟩
    exact apart m.name (List.mem_map.mpr ⟨_, member, rfl⟩) m.name also rfl
  · have member : e ∈ (Api.ofDocument rules doc).enums := List.mem_filterMap.mpr ⟨schema, named, made⟩
    rw [made, none, ← Schema.name_of_enumOf? made]
    refine ⟨find?_unnamed fun also => ?_, find?_named enums member⟩
    exact apart e.name also e.name (List.mem_map.mpr ⟨_, member, rfl⟩) rfl

-- A name without the signs that names of types do not take.
def bare (name : String) : List Char := name.toList.filter fun c => c ∉ ['.', ',', '[', ']']

theorem ofSchema_eq_iff {one other : String} :
    NameRules.ofSchema one = NameRules.ofSchema other ↔ bare one = bare other := by
  have signs : ∀ c, (!NameRules.isTypePunctuation c) = decide (c ∉ ['.', ',', '[', ']']) := by
    intro c
    simp [NameRules.isTypePunctuation, Bool.and_assoc, beq_eq_decide]
  simp only [NameRules.ofSchema, bare, signs, String.ofList_inj]

theorem declared_names_distinct_iff (doc : Document) (distinct : (doc.schemas.getD []).keys.Nodup) :
    let api := Api.ofDocument .standard doc
    let schemas := doc.schemas.getD []
    (api.declaredNames.Nodup ↔ ∀ one ∈ schemas.keys, ∀ other ∈ schemas.keys, bare one = bare other → one = other) ∧
    (∀ reference, api.declaredNames.count (NameRules.standard.ofReference reference) =
      schemas.keys.countP fun key => bare key = bare (Text.lastSegment reference)) ∧
    (api.declaredNames.Nodup → ∀ reference, ∀ schema ∈ schemas,
      bare schema.1 = bare (Text.lastSegment reference) →
        api.model? (NameRules.standard.ofReference reference) =
          (Schema.modelOf? .standard schema).map (markExchanged api.controllers) ∧
        api.enum? (NameRules.standard.ofReference reference) = Schema.enumOf? .standard schema) := by
  intro api schemas
  have names : api.declaredNames.Perm (schemas.keys.map NameRules.ofSchema) :=
    declaredNames_ofDocument .standard doc
  refine ⟨?_, ?_, ?_⟩
  · rw [names.nodup_iff, List.nodup_map_iff_inj_on distinct]
    simp only [ofSchema_eq_iff]
    rfl
  · intro reference
    rw [names.count_eq, List.count, List.countP_map]
    refine List.countP_congr fun key _ => ?_
    simp only [Function.comp_apply, beq_iff_eq, decide_eq_true_eq]
    exact ofSchema_eq_iff
  · intro apart reference schema named alike
    have same : NameRules.standard.ofReference reference = NameRules.standard.model schema.1 :=
      ofSchema_eq_iff.mpr alike.symm
    rw [same]
    exact declaration_found apart named

-- Generic models and an enumeration with signs in their names, which still differ without them.
def shelter : Document :=
  { root := .obj [("definitions", .obj [
      ("Page[Pet]", .obj [("properties", .obj [("next", .obj [("$ref", .str "#/definitions/Pet.Kind")])])]),
      ("Page[Pet,2]", .obj [("allOf", .arr [.obj [("$ref", .str "#/definitions/Page[Pet]")]])]),
      ("Pet.Kind", .obj [("enum", .arr [.str "cat"])])])] }

theorem declared_names_distinct_shelter :
    let api := Api.ofDocument .standard shelter
    let kind := NameRules.standard.ofReference "#/definitions/Pet.Kind"
    (shelter.schemas.getD []).keys.Nodup ∧
    api.declaredNames = ["PagePet", "PagePet2", "PetKind"] ∧ api.declaredNames.Nodup ∧
    api.declaredNames.count kind = 1 ∧
    api.model? kind = none ∧ (api.enum? kind).map (·.items.map (·.literal)) = some ["cat"] := by
  intro api kind
  have keys : (shelter.schemas.getD []).keys.Nodup := by decide
  obtain ⟨iff, count, found⟩ := declared_names_distinct_iff shelter keys
  have distinct : api.declaredNames.Nodup := by
    rw [iff]
    decide
  obtain ⟨model, enum⟩ := found distinct "#/definitions/Pet.Kind" _
    (List.mem_of_getElem? (i := 2) rfl) (by decide)
  exact ⟨keys, by decide +kernel, distinct, by rw [count]; decide, model, by rw [enum]; decide +kernel⟩

-- A model and an enumeration whose keys differ in a dot only.
def alike : Document :=
  { root := .obj [("definitions", .obj [
      ("A.B", .obj [("properties", .obj [])]), ("AB", .obj [("enum", .arr [.str "x"])])])] }

theorem alike_names_declared_twice :
    let api := Api.ofDocument .standard alike
    (alike.schemas.getD []).keys.Nodup ∧ api.declaredNames = ["AB", "AB"] ∧ ¬ api.declaredNames.Nodup := by
  decide +kernel

end ClientGen
