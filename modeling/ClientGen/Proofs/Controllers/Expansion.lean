import ClientGen.Proofs.Controllers.Likeness

namespace ClientGen

open Api

def Operation.places (op : Operation) : List Json :=
  op.shared ++ (op.body.list "parameters").getD [] ++ (op.body.get? "requestBody").toList ++
    op.success.toList

namespace Expansion

variable (doc : Document)

-- What a fragment refers to. A fragment that leads nowhere stays.
def fragment (value : Json) : Json := (doc.target? value).getD value

def responsePart (key : String) (value : Json) : Json :=
  if key = "200" then fragment doc value else value

def operationPart (key : String) (value : Json) : Json :=
  if key = "parameters" then value.mapItems (fragment doc)
  else if key = "requestBody" then fragment doc value
  else if key = "responses" then value.rewrite (responsePart doc)
  else value

def itemPart (key : String) (value : Json) : Json :=
  if key = "parameters" then value.mapItems (fragment doc)
  else if (Verb.ofName? key).isSome then value.rewrite (operationPart doc)
  else value

-- Whether a path item is written out inside. One found by reference may be taken as it stands, unless
-- references are `nested`.
def opensUp (nested : Bool) (value : Json) : Bool := nested || (value.string "$ref").isNone

def item (nested : Bool) (value : Json) : Json :=
  match doc.target? value with
  | none => value
  | some target => if opensUp nested value then target.rewrite (itemPart doc) else target

def document (nested : Bool) : Document :=
  match doc.paths with
  | none => doc
  | some paths => doc.withPaths (paths.rewrite fun _ => item doc nested)

def entryPlaces (nested : Bool) : String × Json → List Json
  | (url, value) =>
    value ::
      if opensUp nested value then (Operation.ofPath doc url value).flatMap Operation.places else []

def places (nested : Bool) : List Json := (doc.paths.getD []).flatMap (entryPlaces doc nested)

def operation (op : Operation) : Operation :=
  { op with body := op.body.rewrite (operationPart doc), shared := op.shared.map (fragment doc) }

variable {doc : Document} {rules : NameRules} {nested : Bool} {value target : Json} {op : Operation}
  {url : String}

theorem agree_document (nested : Bool) (doc : Document) :
    Document.AgreeBut "paths" doc (document doc nested) := by
  unfold document
  split
  · exact .refl _ _
  · exact doc.agree_withPaths _

theorem document_paths (nested : Bool) (doc : Document) :
    (document doc nested).paths.getD [] =
      Fields.rewrite (fun _ => item doc nested) (doc.paths.getD []) := by
  unfold document
  split
  · rename_i none
    rw [none]
    rfl
  · rename_i paths found
    have object : doc.root.obj?.isSome = true := by
      cases root : doc.root with
      | obj _ => rfl
      | _ => simp [Document.paths, root, Json.fields, Json.get?] at found
    rw [Document.withPaths_paths, found]
    obtain ⟨fields, isObject⟩ := Option.isSome_iff_exists.mp object
    rw [isObject]
    rfl

theorem operation_other {key : String} (other : key ∉ ["parameters", "requestBody", "responses"]) :
    (operation doc op).body.get? key = op.body.get? key := by
  simp only [List.mem_cons, List.not_mem_nil, or_false, not_or] at other
  obtain ⟨parameters, request, responses⟩ := other
  have part : operationPart doc key = id := by
    funext value
    rw [operationPart, if_neg parameters, if_neg request, if_neg responses]
    rfl
  rw [operation, Json.get?_rewrite, part, Option.map_id_fun, id]

theorem operation_tag : (operation doc op).tag = op.tag := by
  have same : (operation doc op).body.get? "tags" = op.body.get? "tags" := operation_other (by decide)
  simp only [Operation.tag, Json.list, same]

theorem operation_description :
    operationDescription (operation doc op) = operationDescription op := by
  have summary : (operation doc op).body.get? "summary" = op.body.get? "summary" :=
    operation_other (by decide)
  have description : (operation doc op).body.get? "description" = op.body.get? "description" :=
    operation_other (by decide)
  simp only [operationDescription, List.filterMap_cons, List.filterMap_nil, Json.string, summary,
    description]

theorem operation_parameters : ((operation doc op).body.list "parameters").getD [] =
    ((op.body.list "parameters").getD []).map (fragment doc) := by
  have part : operationPart doc "parameters" = Json.mapItems (fragment doc) := rfl
  rw [Json.list, Json.list, operation, Json.get?_rewrite, part]
  cases op.body.get? "parameters" with
  | none => rfl
  | some listed =>
    simp only [Option.map_some, Option.bind_some, Json.arr?_mapItems]
    cases listed.arr? <;> rfl

theorem operation_request : (operation doc op).body.get? "requestBody" =
    (op.body.get? "requestBody").map (fragment doc) := by
  have part : operationPart doc "requestBody" = fragment doc := rfl
  rw [operation, Json.get?_rewrite, part]

theorem operation_success : (operation doc op).success = op.success.map (fragment doc) := by
  have part : operationPart doc "responses" = Json.rewrite (responsePart doc) := rfl
  have success : responsePart doc "200" = fragment doc := rfl
  rw [Operation.success, Operation.success, operation, Json.get?_rewrite, part]
  cases op.body.get? "responses" with
  | none => rfl
  | some responses =>
    simp only [Option.map_some, Option.bind_some, Json.get?_rewrite, success]

-- What a fragment refers to is no reference again.
def Settled (doc : Document) (value : Json) : Prop :=
  ∀ target, doc.target? value = some target → target.string "$ref" = none

instance (doc : Document) (value : Json) : Decidable (Settled doc value) :=
  decidable_of_iff (∀ target ∈ doc.target? value, target.string "$ref" = none) Iff.rfl

theorem settled_entry {entry : String × Json} (settled : ∀ v ∈ places doc nested, Settled doc v)
    (member : entry ∈ doc.paths.getD []) : ∀ v ∈ entryPlaces doc nested entry, Settled doc v := by
  intro v place
  exact settled v (List.mem_flatMap.mpr ⟨entry, member, place⟩)

theorem fragment_target (spares : doc.Spares "paths") (inside : value.Occurs doc.root)
    (settled : Settled doc value) :
    (document doc nested).target? (fragment doc value) = doc.target? value := by
  unfold fragment
  cases found : doc.target? value with
  | none => exact ((agree_document nested doc).target? spares inside).trans found
  | some target =>
    rw [Option.getD_some, Document.target?, settled target found]

theorem fragment_targets {values : List Json} (spares : doc.Spares "paths")
    (inside : ∀ value ∈ values, value.Occurs doc.root) (settled : ∀ value ∈ values, Settled doc value) :
    (values.map (fragment doc)).filterMap (document doc nested).target? = values.filterMap doc.target? := by
  rw [List.filterMap_map]
  exact List.filterMap_congr fun value member =>
    fragment_target spares (inside value member) (settled value member)

theorem fragment_target_option {value : Option Json} (spares : doc.Spares "paths")
    (inside : ∀ v, value = some v → v.Occurs doc.root) (settled : ∀ v, value = some v → Settled doc v) :
    (value.map (fragment doc)).bind (document doc nested).target? = value.bind doc.target? := by
  cases value with
  | none => rfl
  | some v => exact fragment_target spares (inside v rfl) (settled v rfl)

theorem operation_alike (spares : doc.Spares "paths") (member : op ∈ doc.operations)
    (settled : ∀ value ∈ op.places, Settled doc value) :
    Alike doc (document doc nested) op (operation doc op) := by
  obtain ⟨body, shared⟩ := doc.occurs_operation member
  simp only [Operation.places, List.mem_append, Option.mem_toList] at settled
  exact {
    url := rfl
    verb := rfl
    tag := operation_tag
    description := operation_description
    shared := fragment_targets spares shared fun value listed =>
      settled value (.inl (.inl (.inl listed)))
    own := by
      rw [ownParameters, ownParameters, operation_parameters]
      exact fragment_targets spares (fun _ listed => .trans (Json.occurs_listed listed) body)
        fun value listed => settled value (.inl (.inl (.inr listed)))
    request := by
      rw [operation_request]
      exact fragment_target_option spares (fun _ found => .trans (Json.occurs_get? found) body)
        fun value found => settled value (.inl (.inr found))
    response := by
      rw [operation_success]
      exact fragment_target_option spares (fun _ found => .trans (op.occurs_success found) body)
        fun value found => settled value (.inr found) }

theorem itemPart_verb {key : String} {verb : Verb} (named : Verb.ofName? key = some verb) :
    itemPart doc key = Json.rewrite (operationPart doc) := by
  funext value
  have different : key ≠ "parameters" := by
    rintro rfl
    cases named
  rw [itemPart, if_neg different, named]
  rfl

theorem item_shared (fields : Fields) :
    (((Fields.rewrite (itemPart doc) fields).lookup "parameters").bind Json.arr?).getD [] =
      (((fields.lookup "parameters").bind Json.arr?).getD []).map (fragment doc) := by
  have part : itemPart doc "parameters" = Json.mapItems (fragment doc) := rfl
  rw [Fields.lookup_rewrite, part]
  cases fields.lookup "parameters" with
  | none => rfl
  | some listed =>
    simp only [Option.map_some, Option.bind_some, Json.arr?_mapItems]
    cases listed.arr? <;> rfl

theorem ofPath_plain (other : Document) (found : doc.target? value = some target)
    (plain : target.string "$ref" = none) :
    Operation.ofPath other url target = Operation.ofPath doc url value := by
  have here : other.target? target = some target := by rw [Document.target?, plain]
  rw [Operation.ofPath, Operation.ofPath, here, found]

theorem rewrite_plain (plain : target.string "$ref" = none) :
    (target.rewrite (itemPart doc)).string "$ref" = none := by
  have part : itemPart doc "$ref" = id := rfl
  rw [Json.string, Json.get?_rewrite, part, Option.map_id_fun]
  exact plain

theorem ofPath_rewrite (other : Document) (found : doc.target? value = some target)
    (plain : target.string "$ref" = none) :
    Operation.ofPath other url (target.rewrite (itemPart doc)) =
      (Operation.ofPath doc url value).map (operation doc) := by
  have here : other.target? (target.rewrite (itemPart doc)) = some (target.rewrite (itemPart doc)) := by
    rw [Document.target?, rewrite_plain plain]
  rw [Operation.ofPath, Operation.ofPath, here, found]
  simp only [Option.bind_some, Json.obj?_rewrite]
  cases target.obj? with
  | none => rfl
  | some fields =>
    simp only [Option.map_some, item_shared]
    rw [Fields.rewrite, List.filterMap_map, List.map_filterMap]
    apply List.filterMap_congr
    rintro ⟨key, body⟩ _
    cases named : Verb.ofName? key with
    | none => simp [named]
    | some verb => simp [named, itemPart_verb named, operation]

theorem ofPath_opened (spares : doc.Spares "paths") (entry : (url, value) ∈ doc.paths.getD [])
    (settled : Settled doc value) (inside : opensUp nested value = true) :
    Operation.ofPath (document doc nested) url (item doc nested value) =
      (Operation.ofPath doc url value).map (operation doc) := by
  unfold item
  split
  · rename_i nowhere
    have same := (agree_document nested doc).target? spares (Document.occurs_entry entry)
    simp [Operation.ofPath, same, nowhere]
  · rename_i target reached
    rw [if_pos inside]
    exact ofPath_rewrite _ reached (settled target reached)

theorem ofPath_kept (spares : doc.Spares "paths") (entry : (url, value) ∈ doc.paths.getD [])
    (settled : Settled doc value) (outside : ¬opensUp nested value = true) :
    Operation.ofPath (document doc nested) url (item doc nested value) = Operation.ofPath doc url value := by
  unfold item
  split
  · exact (agree_document nested doc).ofPath spares (Document.occurs_entry entry)
  · rename_i target reached
    rw [if_neg outside]
    exact ofPath_plain _ reached (settled target reached)

theorem item_alike (spares : doc.Spares "paths") (entry : (url, value) ∈ doc.paths.getD [])
    (settled : ∀ v ∈ entryPlaces doc nested (url, value), Settled doc v) :
    List.Forall₂ (Alike doc (document doc nested)) (Operation.ofPath doc url value)
      (Operation.ofPath (document doc nested) url (item doc nested value)) := by
  have itself : Settled doc value := settled value List.mem_cons_self
  by_cases inside : opensUp nested value = true
  · rw [entryPlaces, if_pos inside] at settled
    rw [ofPath_opened spares entry itself inside, List.forall₂_map_right_iff]
    apply List.forall₂_same.mpr
    intro op member
    apply operation_alike spares (Document.mem_operations_entry entry member)
    intro v place
    exact settled v (List.mem_cons_of_mem _ (List.mem_flatMap.mpr ⟨op, member, place⟩))
  · rw [ofPath_kept spares entry itself inside]
    apply List.forall₂_same.mpr
    intro op member
    exact (agree_document nested doc).alike spares (Document.mem_operations_entry entry member)

theorem operations_alike (spares : doc.Spares "paths")
    (settled : ∀ v ∈ places doc nested, Settled doc v) :
    List.Forall₂ (Alike doc (document doc nested)) doc.operations (document doc nested).operations := by
  rw [Document.operations, Document.operations, document_paths, Fields.rewrite, List.flatMap_map]
  apply List.rel_flatten
  rw [List.forall₂_map_left_iff, List.forall₂_map_right_iff, List.forall₂_same]
  rintro ⟨url, value⟩ entry
  exact item_alike spares entry (settled_entry settled entry)

theorem operation_places (op : Operation) :
    (operation doc op).places = op.places.map (fragment doc) := by
  simp only [Operation.places, operation_parameters, operation_request, operation_success,
    List.map_append, Option.toList_map]
  rfl

theorem occurs_place {v : Json} (member : op ∈ doc.operations) (place : v ∈ op.places) :
    v.Occurs doc.root := by
  obtain ⟨body, shared⟩ := doc.occurs_operation member
  simp only [Operation.places, List.mem_append, Option.mem_toList] at place
  rcases place with ((inherited | own) | request) | response
  · exact shared v inherited
  · exact .trans (Json.occurs_listed own) body
  · exact .trans (Json.occurs_get? request) body
  · exact .trans (op.occurs_success response) body

-- Nothing is left to follow: what still is a reference leads nowhere.
def Final (doc : Document) (value : Json) : Prop :=
  value.string "$ref" = none ∨ doc.target? value = none

theorem fragment_final (spares : doc.Spares "paths") (inside : value.Occurs doc.root)
    (settled : Settled doc value) : Final (document doc nested) (fragment doc value) := by
  have same : (document doc nested).target? (fragment doc value) = doc.target? value :=
    fragment_target spares inside settled
  unfold fragment at same ⊢
  cases found : doc.target? value with
  | none =>
    rw [found] at same
    exact .inr same
  | some target => exact .inl (settled target found)

theorem item_final (spares : doc.Spares "paths") (entry : (url, value) ∈ doc.paths.getD [])
    (settled : Settled doc value) : Final (document doc true) (item doc true value) := by
  unfold item
  split
  · rename_i nowhere
    have same := (agree_document true doc).target? spares (Document.occurs_entry entry)
    exact .inr (same.trans nowhere)
  · rename_i target reached
    exact .inl (rewrite_plain (settled target reached))

theorem places_final (spares : doc.Spares "paths") (settled : ∀ v ∈ places doc true, Settled doc v) :
    ∀ v ∈ places (document doc true) true, Final (document doc true) v := by
  intro v member
  rw [places, document_paths, Fields.rewrite, List.flatMap_map] at member
  obtain ⟨⟨url, value⟩, entry, place⟩ := List.mem_flatMap.mp member
  have listed := settled_entry settled entry
  have itself : Settled doc value := listed value List.mem_cons_self
  rcases List.mem_cons.mp place with rfl | below
  · exact item_final spares entry itself
  · have all : ∀ value, opensUp true value = true := fun _ => rfl
    rw [if_pos (all _), ofPath_opened spares entry itself (all value), List.flatMap_map] at below
    obtain ⟨op, declared, written⟩ := List.mem_flatMap.mp below
    rw [operation_places] at written
    obtain ⟨w, within, rfl⟩ := List.mem_map.mp written
    exact fragment_final spares (occurs_place (Document.mem_operations_entry entry declared) within)
      (listed w (List.mem_cons_of_mem _ (List.mem_flatMap.mpr ⟨op, declared, within⟩)))

theorem references_transparent (rules : NameRules) (doc : Document) (nested : Bool)
    (spares : doc.Spares "paths") (settled : ∀ value ∈ places doc nested, Settled doc value) :
    Controllers.ofDocument rules (document doc nested) = Controllers.ofDocument rules doc ∧
      (nested = true →
        ∀ value ∈ places (document doc nested) nested, Final (document doc nested) value) := by
  have agree := agree_document nested doc
  refine ⟨Controllers.ofDocument_alike (operations_alike spares settled) (agree.edition (by decide))
    (agree.tags (by decide)), ?_⟩
  rintro rfl
  exact places_final spares settled

-- A path item, a parameter of it and a response stand elsewhere; a path item and a parameter lead nowhere.
def shelved : Document :=
  { root := .obj [
      ("openapi", .str "3.1.0"),
      ("paths", .obj [
        ("/users", .obj [("$ref", .str "#/components/pathItems/Users")]),
        ("/gone", .obj [("$ref", .str "#/components/pathItems/Gone")]),
        ("/pets", .obj [("get", .obj [
          ("parameters", .arr [.obj [("$ref", .str "#/components/parameters/Gone")]]),
          ("responses", .obj [("200", .obj [("$ref", .str "#/components/responses/Names")])])])])]),
      ("components", .obj [
        ("pathItems", .obj [("Users", .obj [
          ("parameters", .arr [.obj [("$ref", .str "#/components/parameters/Page")]]),
          ("post", .obj [("requestBody", .obj [("x-name", .str "user")])])])]),
        ("parameters", .obj [("Page", parameterObject "page" "query")]),
        ("responses", .obj [("Names", .obj [("content", .obj [("application/json", .obj [
          ("schema", .obj [("type", .str "string")])])])])])])] }

theorem references_transparent_shelved :
    let rules : NameRules := ⟨id, id, id⟩
    shelved.Spares "paths" ∧ (∀ value ∈ places shelved true, Settled shelved value) ∧
    (places shelved true).map (·.string "$ref") = [
      some "#/components/pathItems/Users", some "#/components/parameters/Page", none,
      some "#/components/pathItems/Gone", none, some "#/components/parameters/Gone",
      some "#/components/responses/Names"] ∧
    Controllers.ofDocument rules (document shelved true) = Controllers.ofDocument rules shelved ∧
    ∀ value ∈ places (document shelved true) true, Final (document shelved true) value := by
  intro rules
  have spares : shelved.Spares "paths" := by decide +kernel
  have settled : ∀ value ∈ places shelved true, Settled shelved value := by decide +kernel
  obtain ⟨same, final⟩ := references_transparent rules shelved true spares settled
  exact ⟨spares, settled, rfl, same, final rfl⟩

end Expansion

end ClientGen
