import ClientGen.Proofs.Edition.Operations

namespace ClientGen.Upgrade

open Api

variable {r : Relocation} {rules : NameRules} {doc : Document} {version : Json} {op : Operation}

theorem pathItem_get? (item : Json) (key : String) :
    (pathItem r item).get? key = (item.get? key).map (pathPart r key) := by
  cases item with
  | obj fields => exact Fields.lookup_rewrite (pathPart r) fields key
  | _ => rfl

theorem ofPath_pathItem {url : String} {item : Json} (unreferenced : (item.get? "$ref").isNone = true) :
    Operation.ofPath (document r version doc) url (pathItem r item) =
      (Operation.ofPath doc url item).map (upgraded r) := by
  have old : doc.target? item = some item := target?_plain unreferenced
  have kept : ((pathItem r item).get? "$ref").isNone = true := by
    rw [pathItem_get?, Option.isNone_map, unreferenced]
  have new : (document r version doc).target? (pathItem r item) = some (pathItem r item) := target?_plain kept
  rw [Operation.ofPath, Operation.ofPath, old, new]
  cases item with
  | obj fields =>
    have shared : (Fields.rewrite (pathPart r) fields).lookup "parameters" = fields.lookup "parameters" := by
      have part : pathPart r "parameters" = id := rfl
      rw [Fields.lookup_rewrite, part, Option.map_id]
      rfl
    simp only [pathItem, Option.bind_some, Json.obj?, shared]
    rw [Fields.rewrite, List.filterMap_map, List.map_filterMap]
    apply List.filterMap_congr
    rintro ⟨key, body⟩ _
    cases verb : Verb.ofName? key with
    | none => simp [verb]
    | some v => simp [verb, upgraded, pathPart]
  | _ => rfl

theorem fits_swagger (fit : fits doc = true) : doc.edition = .swagger2 := by
  simp only [fits, Bool.and_eq_true, Option.isNone_iff_eq_none] at fit
  rw [Document.edition, fit.1.1]
  rfl

theorem fits_path {paths : Fields} {url : String} {item : Json} (fit : fits doc = true)
    (found : doc.paths = some paths) (member : (url, item) ∈ paths) : pathItemFits item = true := by
  simp only [fits, Bool.and_eq_true, found, Option.getD_some, List.all_eq_true] at fit
  exact fit.2 _ member

theorem operation_fits (fit : fits doc = true) (member : op ∈ doc.operations) :
    op.shared = [] ∧ operationFits op.body = true := by
  obtain ⟨paths, item, found, within, ofPath⟩ := Document.mem_operations.mp member
  obtain ⟨fields, target, field, _, shared⟩ := Operation.mem_ofPath.mp ofPath
  have path := fits_path fit found within
  simp only [pathItemFits, Bool.and_eq_true, List.all_eq_true] at path
  obtain ⟨⟨unreferenced, alone⟩, each⟩ := path
  rw [target?_plain unreferenced] at target
  cases target
  refine ⟨?_, ?_⟩
  · rw [Option.isNone_iff_eq_none] at alone
    exact shared.trans (congrArg (fun value => (value.bind Json.arr?).getD []) alone)
  · have body := each _ field
    rw [Verb.ofName?_name] at body
    exact body

theorem document_operations (fit : fits doc = true) :
    (document r version doc).operations = doc.operations.map (upgraded r) := by
  rw [Document.operations, Document.operations, document_paths]
  cases found : doc.paths with
  | none => rfl
  | some paths =>
    rw [Option.map_some, Option.getD_some, Option.getD_some, Fields.rewrite, List.flatMap_map,
      List.map_flatMap]
    apply List.flatMap_congr
    rintro ⟨url, item⟩ member
    have path := fits_path fit found member
    simp only [pathItemFits, Bool.and_eq_true] at path
    exact ofPath_pathItem path.1.1

theorem upgraded_file (swagger : doc.edition = .swagger2) (alone : op.shared = [])
    (fit : operationFits op.body = true) (controllers : List Controller) :
    Controllers.file rules (document r version doc) controllers (upgraded r op) =
      Controllers.file rules doc controllers op := by
  have add : Controllers.addMethod rules (document r version doc) (upgraded r op) =
      Controllers.addMethod rules doc op := by
    funext c
    simp only [Controllers.addMethod, upgraded_method swagger alone fit]
    rfl
  rw [Controllers.file, Controllers.file, upgraded_tag, add]

theorem document_controllers (fit : fits doc = true) :
    Controllers.ofDocument rules (document r version doc) = Controllers.ofDocument rules doc := by
  have declared : Controllers.declared rules (document r version doc) = Controllers.declared rules doc := by
    rw [Controllers.declared, Controllers.declared, document_tags]
  rw [Controllers.ofDocument, Controllers.ofDocument, document_operations fit, declared, List.foldl_map]
  apply List.foldl_ext
  intro controllers op member
  obtain ⟨alone, body⟩ := operation_fits fit member
  exact upgraded_file (fits_swagger fit) alone body controllers

theorem document_declarations (fit : fits doc = true) :
    Schema.declarations rules (document r version doc) = Schema.declarations rules doc := by
  have absent : doc.root.get? "components" = none := by
    simp only [fits, Bool.and_eq_true, Option.isNone_iff_eq_none] at fit
    exact fit.1.2
  have schemas : (document r version doc).schemas.getD [] =
      (doc.schemas.getD []).rewrite fun _ => r.schema := by
    rw [document_schemas (fits_swagger fit) absent]
    cases doc.schemas <;> rfl
  simp only [Schema.declarations, schemas, Fields.rewrite, List.filterMap_map]
  congr 1
  · exact List.filterMap_congr fun schema _ => r.modelOf?_schema schema.1 schema.2
  · exact List.filterMap_congr fun schema _ => r.enumOf?_schema schema.1 schema.2

theorem editions_agree (rules : NameRules) (r : Relocation) (version : Json) (doc : Document)
    (fit : fits doc = true) :
    doc.edition = .swagger2 ∧ (document r version doc).edition = .openApi3 ∧
      Api.ofDocument rules (document r version doc) = Api.ofDocument rules doc := by
  refine ⟨fits_swagger fit, document_edition, ?_⟩
  simp only [Api.ofDocument, document_info, document_controllers fit, document_declarations fit]

-- One operation has a body and inline types, one has neither parameters nor a type of its response.
def petShop : Document :=
  { root := .obj [
      ("swagger", .str "2.0"),
      ("definitions", .obj [("Kind", .obj [("enum", .arr [.str "cat", .str "dog"])]), ("Pet", .obj [])]),
      ("paths", .obj [("/pets", .obj [
        ("post", .obj [
          ("parameters", .arr [
            .obj [("name", .str "pet"), ("in", .str "body"), ("required", .bool true),
              ("description", .str "to\nadd"), ("schema", .obj [("$ref", .str "#/definitions/Pet")])],
            .obj [("name", .str "kinds"), ("in", .str "query"), ("type", .str "array"),
              ("items", .obj [("enum", .arr [.str "cat"])]), ("default", .arr [])]]),
          ("responses", .obj [("200", .obj [("schema", .obj [("type", .str "string")])])])]),
        ("get", .obj [("responses", .obj [("200", .obj [("description", .str "all")])])])])])] }

theorem editions_agree_petShop :
    let rules : NameRules := ⟨id, id, id⟩
    fits petShop = true ∧
    (document .toComponents (.str "3.0.3") petShop).edition = .openApi3 ∧
    Controllers.names (Api.ofDocument rules petShop).controllers = ["Default"] ∧
    Api.ofDocument rules (document .toComponents (.str "3.0.3") petShop) = Api.ofDocument rules petShop := by
  intro rules
  have fit : fits petShop = true := by decide
  obtain ⟨_, edition, same⟩ := editions_agree rules .toComponents (.str "3.0.3") petShop fit
  exact ⟨fit, edition, rfl, same⟩

end ClientGen.Upgrade
