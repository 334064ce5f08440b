import ClientGen.Proofs.Edition.Document
import ClientGen.Proofs.Edition.Parameters

namespace ClientGen.Upgrade

open Api

variable {r : Relocation} {rules : NameRules} {doc : Document} {version : Json} {op : Operation}

theorem target?_plain {value : Json} (plain : (value.get? "$ref").isNone = true) :
    doc.target? value = some value := by
  rw [Option.isNone_iff_eq_none] at plain
  rw [Document.target?, Json.string, plain]
  rfl

theorem targets_plain {values : List Json} (plain : ∀ v ∈ values, (v.get? "$ref").isNone = true) :
    values.filterMap doc.target? = values := by
  rw [List.filterMap_congr fun v member => target?_plain (plain v member), List.filterMap_some]

theorem isPlainObject_iff {value : Json} :
    isPlainObject value = true ↔ value.obj?.isSome = true ∧ (value.get? "$ref").isNone = true :=
  Bool.and_eq_true_iff

def upgraded (r : Relocation) (op : Operation) : Operation :=
  { op with body := operation r op.body }

theorem operation_get? (fields : Fields) (key : String) : (operation r (.obj fields)).get? key =
    ((fields.lookup key).map (operationPart r key)).or
      (if key = "requestBody" then
        ((((fields.lookup "parameters").bind Json.arr?).getD []).find? isBody).map (bodyOf r)
      else none) := by
  have last := Fields.lookup_append_option (Fields.rewrite (operationPart r) fields) "requestBody" key
    (((((fields.lookup "parameters").bind Json.arr?).getD []).find? isBody).map (bodyOf r))
  rw [Option.map_map, Fields.lookup_rewrite] at last
  exact last

theorem operation_other {body : Json} {key : String}
    (other : key ∉ ["parameters", "responses", "requestBody"]) :
    (operation r body).get? key = body.get? key := by
  simp only [List.mem_cons, List.not_mem_nil, or_false, not_or] at other
  obtain ⟨parameters, responses, request⟩ := other
  cases body with
  | obj fields =>
    have part : operationPart r key = id := by
      funext value
      rw [operationPart, if_neg parameters, if_neg responses]
      rfl
    rw [operation_get?, if_neg request, part, Option.map_id, Option.or_none]
    rfl
  | _ => rfl

theorem upgraded_tag : (upgraded r op).tag = op.tag := by
  have same : (operation r op.body).get? "tags" = op.body.get? "tags" := operation_other (by decide)
  simp only [Operation.tag, upgraded, Json.list, same]

theorem upgraded_description : operationDescription (upgraded r op) = operationDescription op := by
  have summary : (operation r op.body).get? "summary" = op.body.get? "summary" :=
    operation_other (by decide)
  have description : (operation r op.body).get? "description" = op.body.get? "description" :=
    operation_other (by decide)
  simp only [operationDescription, upgraded, List.filterMap_cons, List.filterMap_nil, Json.string,
    summary, description]

-- Without references and without parameters of the path, the objects that count are those in the list.
theorem parameterObjects_swagger {items : List Json} (swagger : doc.edition = .swagger2)
    (alone : op.shared = []) (listed : (op.body.list "parameters").getD [] = items)
    (plain : ∀ p ∈ items, (p.get? "$ref").isNone = true) : parameterObjects doc op = items := by
  have own : ownParameters doc op = items := by
    rw [ownParameters, listed, targets_plain plain]
  rw [parameterObjects, requestBody, swagger, inheritedParameters, alone, own]
  rfl

theorem upgraded_list {fields : Fields} :
    ((operation r (.obj fields)).list "parameters").getD [] =
      ((((Json.obj fields).list "parameters").getD []).filter fun p => !isBody p).map (parameter r) := by
  have found : (operation r (.obj fields)).get? "parameters" =
      (fields.lookup "parameters").map (parameters r) := by
    rw [operation_get?, if_neg (by decide), Option.or_none]
    rfl
  rw [Json.list, found, Json.list, Json.get?]
  cases fields.lookup "parameters" with
  | none => rfl
  | some value => cases value <;> rfl

theorem upgraded_requestBody {fields : Fields} (fresh : fields.lookup "requestBody" = none) :
    (operation r (.obj fields)).get? "requestBody" =
      ((((Json.obj fields).list "parameters").getD []).find? isBody).map (bodyOf r) := by
  rw [operation_get?, fresh, if_pos rfl, Option.map_none, Option.none_or]
  rfl

theorem parameter_unreferenced (p : Json) : ((parameter r p).get? "$ref").isNone = true := by
  cases p with
  | obj fields => rw [parameter_get?, if_neg (by decide), if_neg (by decide), Option.isNone_none]
  | _ => rfl

theorem parameterObjects_upgraded {fields : Fields} {items : List Json} (alone : op.shared = [])
    (body : op.body = .obj fields) (fresh : fields.lookup "requestBody" = none)
    (listed : ((Json.obj fields).list "parameters").getD [] = items) :
    parameterObjects (document r version doc) (upgraded r op) =
      ((items.find? isBody).map fun p => ofRequestBody (bodyOf r p)).toList ++
        (items.filter fun p => !isBody p).map (parameter r) := by
  have own : ownParameters (document r version doc) (upgraded r op) =
      (items.filter fun p => !isBody p).map (parameter r) := by
    rw [ownParameters, upgraded, body, upgraded_list, listed]
    apply targets_plain
    intro v member
    obtain ⟨p, _, rfl⟩ := List.mem_map.mp member
    exact parameter_unreferenced p
  have request : requestBody (document r version doc) (upgraded r op) =
      ((items.find? isBody).map fun p => ofRequestBody (bodyOf r p)).toList := by
    rw [requestBody, document_edition, upgraded, body, upgraded_requestBody fresh, listed]
    cases items.find? isBody with
    | none => rfl
    | some p =>
      have found : (document r version doc).target? (bodyOf r p) = some (bodyOf r p) := target?_plain rfl
      rw [Option.map_some, Option.bind_some, found]
      rfl
  have inherited : inheritedParameters (document r version doc) (upgraded r op) = [] := by
    rw [inheritedParameters, upgraded, alone]
    rfl
  rw [parameterObjects, request, inherited, own, List.append_nil]

theorem upgraded_parameters {fields : Fields} (swagger : doc.edition = .swagger2)
    (alone : op.shared = []) (body : op.body = .obj fields)
    (fresh : fields.lookup "requestBody" = none)
    (fit : parametersFit (((Json.obj fields).list "parameters").getD []) = true) :
    operationParameters rules (document r version doc) (upgraded r op) = operationParameters rules doc op := by
  have plain : ∀ p ∈ ((Json.obj fields).list "parameters").getD [], (p.get? "$ref").isNone = true := by
    intro p member
    simp only [parametersFit, Bool.and_eq_true, List.all_eq_true] at fit
    exact (isPlainObject_iff.mp (fit.1.1 p member)).2
  rw [operationParameters, parameterObjects_upgraded alone body fresh rfl, operationParameters,
    parameterObjects_swagger swagger alone (body ▸ rfl) plain]
  exact parametersFrom_congr (parameters_interchangeable fit) []

theorem response_get? (fields : Fields) (key : String) : (response r (.obj fields)).get? key =
    if key = "content" then some (.obj (content r (fields.lookup "schema")))
    else if key = "schema" then none else fields.lookup key := by
  simp only [response, Json.get?, List.lookup_append, Fields.lookup_only, Fields.lookup_cons_if,
    List.lookup_nil]
  by_cases first : key = "content" <;> by_cases second : key = "schema" <;> simp [first, second]

theorem response_target {value : Json} (plain : isPlainObject value = true) :
    doc.target? (response r value) = some (response r value) := by
  obtain ⟨object, unreferenced⟩ := isPlainObject_iff.mp plain
  cases value with
  | obj fields =>
    have unchanged : (response r (.obj fields)).get? "$ref" = fields.lookup "$ref" := by
      rw [response_get?, if_neg (by decide), if_neg (by decide)]
    exact target?_plain (unchanged ▸ unreferenced)
  | _ => cases object

theorem response_content {value : Json} (object : value.obj?.isSome = true) :
    (response r value).fields "content" = some (content r (value.get? "schema")) := by
  cases value with
  | obj fields =>
    rw [Json.fields, response_get?, if_pos rfl]
    rfl
  | _ => cases object

theorem contentSchema_content (schema : Option Json) :
    contentSchema (content r schema) = schema.map r.schema := by
  cases schema <;> rfl

theorem responses_get? (value : Json) : (responses r value).get? "200" = (value.get? "200").map (response r) := by
  cases value with
  | obj fields => exact Fields.lookup_rewrite (responsePart r) fields "200"
  | _ => rfl

theorem upgraded_result {fields : Fields} (swagger : doc.edition = .swagger2)
    (body : op.body = .obj fields)
    (plain : ((fields.lookup "responses").bind (·.get? "200")).all isPlainObject = true) :
    resultType rules (document r version doc) (upgraded r op) = resultType rules doc op := by
  have found : ((operation r (.obj fields)).get? "responses").bind (·.get? "200") =
      ((fields.lookup "responses").bind (·.get? "200")).map (response r) := by
    have part : operationPart r "responses" = responses r := rfl
    rw [operation_get?, if_neg (by decide), Option.or_none, part, Option.bind_map, Option.map_bind]
    exact congrArg _ (funext responses_get?)
  have original : op.body.get? "responses" = fields.lookup "responses" := body ▸ rfl
  rw [resultType, resultType, upgraded, original, body, found, swagger, document_edition]
  cases first : (fields.lookup "responses").bind (·.get? "200") with
  | none => rfl
  | some value =>
    rw [first] at plain
    obtain ⟨object, unreferenced⟩ := isPlainObject_iff.mp plain
    rw [Option.map_some, Option.bind_some, response_target plain, Option.bind_some,
      target?_plain unreferenced]
    simp only [response_content object, contentSchema_content, r.typeOf_schema]

theorem operation_fields {body : Json} (fit : operationFits body = true) :
    ∃ fields, body = .obj fields ∧ fields.lookup "requestBody" = none ∧
      parametersFit (((Json.obj fields).list "parameters").getD []) = true ∧
      ((fields.lookup "responses").bind (·.get? "200")).all isPlainObject = true := by
  simp only [operationFits, Bool.and_eq_true, Option.isNone_iff_eq_none] at fit
  obtain ⟨⟨⟨object, fresh⟩, listed⟩, responses⟩ := fit
  cases body with
  | obj fields =>
    refine ⟨fields, rfl, fresh, ?_, responses⟩
    rw [Json.list]
    cases found : (Json.obj fields).get? "parameters" with
    | none => rfl
    | some value =>
      rw [found] at listed
      cases value with
      | arr items => exact listed
      | _ => cases listed
  | _ => cases object

theorem upgraded_method (swagger : doc.edition = .swagger2) (alone : op.shared = [])
    (fit : operationFits op.body = true) (name : String) :
    (upgraded r op).method rules (document r version doc) name = op.method rules doc name := by
  obtain ⟨fields, body, fresh, parameters, responses⟩ := operation_fields fit
  rw [Operation.method, upgraded_parameters swagger alone body fresh parameters, upgraded_description,
    upgraded_result swagger body responses]
  rfl

end ClientGen.Upgrade
