import ClientGen.Proofs.Edition.Upgrade

namespace ClientGen.Upgrade

variable {r : Relocation} {doc : Document} {version : Json}

theorem document_get? (key : String) : (document r version doc).root.get? key =
    if key = "openapi" then some version
    else ((if key = "definitions" then none else doc.root.get? key).map (documentPart r key)).or
      (if key = "components" then (doc.root.get? "definitions").map (components r) else none) := by
  rw [doc.root.get?_eq_lookup, doc.root.get?_eq_lookup]
  simp only [document, Json.get?, List.cons_append, Fields.lookup_cons_if]
  by_cases first : key = "openapi"
  · rw [if_pos first, if_pos first]
  · rw [if_neg first, if_neg first]
    have last := Fields.lookup_append_option
      (Fields.rewrite (documentPart r) ((doc.root.obj?.getD []).only (· ≠ "definitions"))) "components" key
      (((doc.root.obj?.getD []).lookup "definitions").map (components r))
    rw [Option.map_map] at last
    apply Eq.trans last
    rw [Fields.lookup_rewrite, Fields.lookup_only]
    by_cases moved : key = "definitions" <;> simp [moved]

theorem document_other {key : String}
    (other : key ∉ ["openapi", "components", "definitions", "paths"]) :
    (document r version doc).root.get? key = doc.root.get? key := by
  simp only [List.mem_cons, List.not_mem_nil, or_false, not_or] at other
  obtain ⟨openapi, components, definitions, path⟩ := other
  have part : documentPart r key = id := funext fun _ => if_neg path
  rw [document_get?, if_neg openapi, if_neg components, if_neg definitions, part]
  simp

theorem document_edition : (document r version doc).edition = .openApi3 := by
  have openapi : (document r version doc).root.get? "openapi" = some version := by
    rw [document_get?, if_pos rfl]
  rw [Document.edition, openapi]
  rfl

theorem document_info : (document r version doc).info = doc.info := by
  have same : (document r version doc).root.get? "info" = doc.root.get? "info" :=
    document_other (by decide)
  simp only [Document.info, Document.infoField, same]

theorem document_tags : (document r version doc).tags = doc.tags := by
  have same : (document r version doc).root.get? "tags" = doc.root.get? "tags" :=
    document_other (by decide)
  simp only [Document.tags, Json.list, same]

theorem document_schemas (swagger : doc.edition = .swagger2)
    (absent : doc.root.get? "components" = none) :
    (document r version doc).schemas = doc.schemas.map (Fields.rewrite fun _ => r.schema) := by
  have components : (document r version doc).root.get? "components" =
      (doc.root.get? "definitions").map (components r) := by
    rw [document_get?]
    simp [absent]
  rw [Document.schemas, Document.schemas, swagger, document_edition]
  simp only [components, Json.fields]
  cases doc.root.get? "definitions" with
  | none => rfl
  | some definitions =>
    cases definitions with
    | obj fields => exact congrArg some (r.named_eq fields)
    | _ => rfl

theorem document_paths : (document r version doc).paths =
    doc.paths.map (Fields.rewrite fun _ item => pathItem r item) := by
  have found : (document r version doc).root.get? "paths" = (doc.root.get? "paths").map (paths r) := by
    have part : documentPart r "paths" = paths r := rfl
    rw [document_get?, part]
    simp
  simp only [Document.paths, Json.fields, found]
  cases doc.root.get? "paths" with
  | none => rfl
  | some value => cases value <;> rfl

end ClientGen.Upgrade
