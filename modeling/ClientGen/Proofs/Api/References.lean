import ClientGen.Proofs.Controllers.Imports
import ClientGen.Proofs.Controllers.Parameters
import ClientGen.Proofs.Schema.Declared
import ClientGen.Proofs.Schema.References
import ClientGen.Proofs.Text.Segment

namespace ClientGen

open Api

variable {rules : NameRules} {doc : Document} {model : String}

def NamedIn (rules : NameRules) (doc : Document) (model : String) : Prop :=
  ∃ reference, doc.root.Refers reference ∧ model = rules.ofReference reference

theorem namedIn_typeOf {fragment : Json} (inside : fragment.Occurs doc.root)
    (named : (Schema.typeOf rules (some fragment)).model = some model) : NamedIn rules doc model := by
  obtain ⟨reference, refers, same⟩ := Schema.typeOf_refers fragment named
  exact ⟨reference, refers.within inside, same⟩

theorem namedIn_typeOf? {fragment : Option Json}
    (inside : ∀ value, fragment = some value → value.Occurs doc.root)
    (named : (Schema.typeOf rules fragment).model = some model) : NamedIn rules doc model := by
  cases fragment with
  | none =>
    rw [Schema.typeOf_eq] at named
    cases named
  | some value => exact namedIn_typeOf (inside value rfl) named

theorem Document.occurs_operation {op : Operation} (member : op ∈ doc.operations) :
    op.body.Occurs doc.root ∧ ∀ fragment ∈ op.shared, fragment.Occurs doc.root := by
  obtain ⟨paths, item, found, within, ofPath⟩ := Document.mem_operations.mp member
  obtain ⟨fields, target, field, _, shared⟩ := Operation.mem_ofPath.mp ofPath
  have object := doc.occurs_target? (Json.occurs_fields found within) target
  refine ⟨.trans (.field field (.self _)) object, ?_⟩
  intro fragment listed
  rw [shared] at listed
  have inside : fragment.Occurs (.obj fields) := Json.occurs_listed listed
  exact .trans inside object

theorem Document.occurs_schemas {fields : Fields} (found : doc.schemas = some fields) :
    (Json.obj fields).Occurs doc.root := by
  unfold Document.schemas at found
  split at found
  · obtain ⟨components, present, object⟩ := Option.bind_eq_some_iff.mp found
    exact .trans (Json.occurs_get? (Json.get?_of_fields object)) (Json.occurs_get? present)
  · exact Json.occurs_get? (Json.get?_of_fields found)

theorem occurs_contentSchema {content : Fields} {schema : Json}
    (found : contentSchema content = some schema) : schema.Occurs (.obj content) := by
  obtain ⟨media, chosen, below⟩ := Option.bind_eq_some_iff.mp found
  refine .trans (Json.occurs_get? below) ?_
  split at chosen
  · rename_i declared
    cases chosen
    exact Json.occurs_lookup declared
  · obtain ⟨⟨name, _⟩, first, rfl⟩ := Option.map_eq_some_iff.mp chosen
    exact .field (List.mem_of_head? first) (.self _)

-- The object made for a body is new, but its schema is a part of the document.
theorem namedIn_ofRequestBody {body : Json} (inside : body.Occurs doc.root)
    (named : (Schema.typeOf rules (some (ofRequestBody body))).model = some model) :
    NamedIn rules doc model := by
  have plain : ∀ key ∈ ["oneOf", "anyOf", "allOf"], (ofRequestBody body).get? key = none := by
    intro key member
    simp only [List.mem_cons, List.not_mem_nil, or_false] at member
    rcases member with rfl | rfl | rfl <;> rfl
  rw [Schema.typeOf_carried plain rfl] at named
  cases found : (body.fields "content").bind contentSchema with
  | none =>
    rw [found, Schema.typeOf_eq] at named
    cases named
  | some schema =>
    rw [found] at named
    obtain ⟨content, object, chosen⟩ := Option.bind_eq_some_iff.mp found
    refine namedIn_typeOf (.trans (occurs_contentSchema chosen) ?_) named
    exact .trans (Json.occurs_get? (Json.get?_of_fields object)) inside

theorem namedIn_parameterObject {op : Operation} {fragment : Json} (member : op ∈ doc.operations)
    (within : fragment ∈ parameterObjects doc op)
    (named : (Schema.typeOf rules (some fragment)).model = some model) : NamedIn rules doc model := by
  obtain ⟨body, shared⟩ := doc.occurs_operation member
  simp only [parameterObjects, List.mem_append] at within
  rcases within with (made | inherited) | own
  · unfold requestBody at made
    split at made
    · cases made
    · obtain ⟨target, found, rfl⟩ := Option.map_eq_some_iff.mp (Option.mem_toList.mp made)
      obtain ⟨value, present, reached⟩ := Option.bind_eq_some_iff.mp found
      exact namedIn_ofRequestBody (doc.occurs_target? (.trans (Json.occurs_get? present) body) reached)
        named
  · obtain ⟨value, listed, reached⟩ := List.mem_filterMap.mp (List.mem_filter.mp inherited).1
    exact namedIn_typeOf (doc.occurs_target? (shared value listed) reached) named
  · obtain ⟨value, listed, reached⟩ := List.mem_filterMap.mp own
    exact namedIn_typeOf (doc.occurs_target? (.trans (Json.occurs_listed listed) body) reached) named

theorem namedIn_parameter {op : Operation} {p : Parameter} (member : op ∈ doc.operations)
    (within : p ∈ operationParameters rules doc op) (named : p.type.model = some model) :
    NamedIn rules doc model := by
  obtain ⟨fragment, listed, stands⟩ := mem_parametersFrom within
  rw [stands.type] at named
  exact namedIn_parameterObject member listed named

theorem namedIn_resultType {op : Operation} (member : op ∈ doc.operations)
    (named : (resultType rules doc op).model = some model) : NamedIn rules doc model := by
  have body := (doc.occurs_operation member).1
  unfold resultType at named
  split at named
  · cases named
  · rename_i response found
    obtain ⟨value, present, reached⟩ := Option.bind_eq_some_iff.mp found
    obtain ⟨responses, all, success⟩ := Option.bind_eq_some_iff.mp present
    have inside : response.Occurs doc.root := doc.occurs_target?
      (.trans (Json.occurs_get? success) (.trans (Json.occurs_get? all) body)) reached
    split at named
    · split at named
      · rename_i content object
        refine namedIn_typeOf? ?_ named
        intro schema chosen
        exact .trans (occurs_contentSchema chosen)
          (.trans (Json.occurs_get? (Json.get?_of_fields object)) inside)
      · cases named
    · refine namedIn_typeOf? ?_ named
      intro schema chosen
      exact .trans (Json.occurs_get? chosen) inside

-- The places of a description where a model is mentioned by name.
inductive Api.Mentions (api : Api) (model : String) : Prop where
  | base {m : Model} (member : m ∈ api.models) (based : m.base = some model)
  | property {m : Model} {p : Property} (member : m ∈ api.models) (within : p ∈ m.properties)
      (named : p.type.model = some model)
  | parameter {c : Controller} {m : Method} {p : Parameter} (member : c ∈ api.controllers)
      (within : m ∈ c.methods) (listed : p ∈ m.parameters ∨ ∃ location, p ∈ m.at location)
      (named : p.type.model = some model)
  | response {c : Controller} {m : Method} (member : c ∈ api.controllers) (within : m ∈ c.methods)
      (named : m.response.model = some model)
  | imported {c : Controller} (member : c ∈ api.controllers) (listed : model ∈ c.imports)

theorem mem_models {m : Model} (member : m ∈ (Api.ofDocument rules doc).models) :
    ∃ name definition, definition.Occurs doc.root ∧
      m.base = (Schema.modelOf rules name definition).base ∧
      m.properties = (Schema.modelOf rules name definition).properties := by
  obtain ⟨declared, within, rfl⟩ := List.mem_map.mp member
  obtain ⟨⟨name, definition⟩, listed, made⟩ := List.mem_filterMap.mp within
  have inside : definition.Occurs doc.root := by
    obtain ⟨fields, schemas, member⟩ := mem_getD listed
    exact .trans (.field member (.self _)) (doc.occurs_schemas schemas)
  simp only [Schema.modelOf?] at made
  split at made
  · cases made
  · obtain rfl := Option.some.inj made
    exact ⟨name, definition, inside, rfl, rfl⟩

theorem namedIn_mentions (mentioned : (Api.ofDocument rules doc).Mentions model) :
    NamedIn rules doc model := by
  have used : ∀ {c : Controller} {m : Method}, c ∈ (Api.ofDocument rules doc).controllers →
      m ∈ c.methods → m.Uses model → NamedIn rules doc model := by
    intro c m member within uses
    obtain ⟨op, declared, _, taken, rfl⟩ := Controllers.mem_methods_finished member within
    rcases uses with ⟨p, listed, named⟩ | named
    · have counted : p ∈ operationParameters rules doc op := by
        rcases listed with combined | header
        · exact ((op.mem_parameters _ p).mp combined).1
        · exact ((op.mem_at _ .header p).mp header).1
      exact namedIn_parameter declared counted named
    · exact namedIn_resultType declared named
  cases mentioned with
  | base member based =>
    obtain ⟨name, definition, inside, base, _⟩ := mem_models member
    obtain ⟨reference, refers, same⟩ := Schema.modelOf_base_refers (base ▸ based)
    exact ⟨reference, refers.within inside, same⟩
  | property member within named =>
    obtain ⟨name, definition, inside, _, properties⟩ := mem_models member
    obtain ⟨reference, refers, same⟩ := Schema.modelOf_property_refers (properties ▸ within) named
    exact ⟨reference, refers.within inside, same⟩
  | parameter member within listed named =>
    obtain ⟨op, declared, _, taken, rfl⟩ := Controllers.mem_methods_finished member within
    rcases listed with combined | ⟨location, placed⟩
    · exact namedIn_parameter declared ((op.mem_parameters _ _).mp combined).1 named
    · exact namedIn_parameter declared ((op.mem_at _ location _).mp placed).1 named
  | response member within named => exact used member within (.inr named)
  | imported member listed =>
    obtain ⟨m, within, uses⟩ := (Controllers.mem_imports_finished member model).mp listed
    exact used member within uses

theorem declared_of_key {name : String} (key : name ∈ (doc.schemas.getD []).keys) :
    rules.model name ∈ (Api.ofDocument rules doc).models.map (·.name) ++
      (Api.ofDocument rules doc).enums.map (·.name) :=
  (declaredNames_ofDocument rules doc).mem_iff.mpr (List.mem_map_of_mem key)

theorem references_sound (rules : NameRules) (doc : Document) (model : String)
    (mentioned : (Api.ofDocument rules doc).Mentions model) :
    (∃ reference name, doc.root.Refers reference ∧ Text.EndsIn reference name ∧
      model = rules.model name) ∧
    ∀ name ∈ (doc.schemas.getD []).keys, model = rules.model name →
      model ∈ (Api.ofDocument rules doc).models.map (·.name) ++
        (Api.ofDocument rules doc).enums.map (·.name) := by
  obtain ⟨reference, refers, same⟩ := namedIn_mentions mentioned
  refine ⟨⟨reference, _, refers, Text.endsIn_lastSegment reference, same⟩, ?_⟩
  rintro name key rfl
  exact declared_of_key key

-- The items of a union name the model; the reference leads to a schema that another one refers to.
def chained : Document :=
  { root := .obj [
      ("openapi", .str "3.0.0"),
      ("components", .obj [("schemas", .obj [
        ("Pets", .obj [("properties", .obj [("all", .obj [("type", .str "array"),
          ("items", .obj [("anyOf", .arr [.obj [("$ref", .str "#/components/schemas/Kind")]])])])])]),
        ("Kind", .obj [("enum", .arr [.str "cat"])])])])] }

theorem references_sound_chained :
    let rules : NameRules := ⟨id, id, fun name => "I" ++ name⟩
    let api := Api.ofDocument rules chained
    api.Mentions "IKind" ∧
    (∃ reference name, chained.root.Refers reference ∧ Text.EndsIn reference name ∧
      "IKind" = rules.model name) ∧
    "IKind" ∈ api.models.map (·.name) ++ api.enums.map (·.name) := by
  intro rules api
  have types : api.models.map (fun m => m.properties.map (·.type.model)) = [[some "IKind"]] := by
    decide +kernel
  have mentioned : api.Mentions "IKind" := by
    obtain ⟨m, member, properties⟩ := List.mem_map.mp (types ▸ List.mem_singleton_self _)
    obtain ⟨p, within, named⟩ := List.mem_map.mp (properties ▸ List.mem_singleton_self _)
    exact .property member within named
  obtain ⟨named, declared⟩ := references_sound rules chained "IKind" mentioned
  have key : "Kind" ∈ (chained.schemas.getD []).keys := by decide
  exact ⟨mentioned, named, declared "Kind" key rfl⟩

end ClientGen
