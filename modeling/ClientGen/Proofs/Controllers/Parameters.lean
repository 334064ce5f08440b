import ClientGen.Proofs.Controllers.Operations
import Mathlib.Data.List.Forall2

namespace ClientGen

open Api

variable {rules : NameRules} {doc : Document} {m : Method}

-- What a parameter takes from its object. The identifier is left out: it depends on the parameters
-- before it.
structure StandsFor (rules : NameRules) (fragment : Json) (p : Parameter) : Prop where
  location : locationOf? fragment = some p.location
  name : p.name = (fragment.string "name").getD ""
  description : p.description = fragment.description
  required : p.required = (fragment.flag "required").getD false
  default : p.default = defaultOf fragment
  type : p.type = Schema.typeOf rules (some fragment)

theorem parametersFrom_each (taken : List String) (fragments : List Json) :
    List.Forall₂ (StandsFor rules) (fragments.filter fun f => (locationOf? f).isSome)
      (parametersFrom rules taken fragments) := by
  induction fragments generalizing taken with
  | nil => exact .nil
  | cons fragment rest ih =>
    unfold parametersFrom
    split
    · rename_i unknown
      rw [List.filter_cons_of_neg (by simp [unknown])]
      exact ih taken
    · rename_i location known
      rw [List.filter_cons_of_pos (by simp [known])]
      exact .cons ⟨known, rfl, rfl, rfl, rfl, rfl⟩ (ih _)

theorem mem_parametersFrom {taken : List String} {fragments : List Json} {p : Parameter}
    (member : p ∈ parametersFrom rules taken fragments) :
    ∃ fragment ∈ fragments, StandsFor rules fragment p := by
  induction fragments generalizing taken with
  | nil => cases member
  | cons fragment rest ih =>
    unfold parametersFrom at member
    split at member
    · obtain ⟨other, within, stands⟩ := ih member
      exact ⟨other, List.mem_cons_of_mem _ within, stands⟩
    · rename_i location known
      rcases List.mem_cons.mp member with rfl | later
      · exact ⟨fragment, List.mem_cons_self, known, rfl, rfl, rfl, rfl, rfl⟩
      · obtain ⟨other, within, stands⟩ := ih later
        exact ⟨other, List.mem_cons_of_mem _ within, stands⟩

theorem identifier_of_mem {taken : List String} {fragments : List Json} {p : Parameter}
    (member : p ∈ parametersFrom rules taken fragments) :
    ∃ used, p.identifier = freshName (identifierOf p.name) used := by
  induction fragments generalizing taken with
  | nil => cases member
  | cons fragment rest ih =>
    unfold parametersFrom at member
    split at member
    · exact ih member
    · rcases List.mem_cons.mp member with rfl | later
      · exact ⟨taken, rfl⟩
      · exact ih later

-- Objects that say the same about a parameter, whatever its place in the list.
def Interchangeable (rules : NameRules) (a b : Json) : Prop :=
  locationOf? a = locationOf? b ∧
    ∀ taken location, Parameter.ofJson rules taken location a = Parameter.ofJson rules taken location b

theorem interchangeable_of {a b : Json} (place : a.string "in" = b.string "in")
    (name : a.string "name" = b.string "name") (description : a.description = b.description)
    (required : a.flag "required" = b.flag "required") (default : defaultOf a = defaultOf b)
    (type : Schema.typeOf rules (some a) = Schema.typeOf rules (some b)) :
    Interchangeable rules a b := by
  refine ⟨?_, ?_⟩
  · rw [locationOf?, locationOf?, place]
  · intro taken location
    simp only [Parameter.ofJson, name, description, required, default, type]

theorem parametersFrom_congr {as bs : List Json} (alike : List.Forall₂ (Interchangeable rules) as bs)
    (taken : List String) : parametersFrom rules taken as = parametersFrom rules taken bs := by
  induction alike generalizing taken with
  | nil => rfl
  | cons head _ ih =>
    unfold parametersFrom
    rw [head.1]
    split
    · exact ih taken
    · rw [head.2]
      dsimp only
      rw [ih]

def resolved (doc : Document) (items : Option (List Json)) : List Json :=
  (items.getD []).filterMap doc.target?

def synthetic (doc : Document) (body : Json) : List Json :=
  if doc.edition = .openApi3 then
    match (body.get? "requestBody").bind doc.target? with
    | some value => [ofRequestBody value]
    | none => []
  else []

-- The parameter objects that count for an operation of a path, in order: the body, what the path
-- declares and the operation does not declare under the same key, what the operation declares.
def accounted (doc : Document) (pathItem : Fields) (body : Json) : List Json :=
  let own := resolved doc (body.list "parameters")
  let shared := resolved doc ((pathItem.lookup "parameters").bind Json.arr?)
  let inherited := shared.filter fun f => ∀ other ∈ own, nameAndPlace f ≠ nameAndPlace other
  (synthetic doc body ++ inherited ++ own).filter fun f => (locationOf? f).isSome

def operationAt (pathItem : Fields) (url : String) (verb : Verb) (body : Json) : Operation :=
  { url, verb, body, shared := ((pathItem.lookup "parameters").bind Json.arr?).getD [] }

theorem accounted_eq (doc : Document) (pathItem : Fields) (url : String) (verb : Verb) (body : Json) :
    accounted doc pathItem body =
      (parameterObjects doc (operationAt pathItem url verb body)).filter fun f =>
        (locationOf? f).isSome := by
  have bodies : synthetic doc body = requestBody doc (operationAt pathItem url verb body) := by
    unfold synthetic requestBody
    cases doc.edition with
    | swagger2 => rfl
    | openApi3 =>
      simp only [operationAt, if_true]
      cases (body.get? "requestBody").bind doc.target? <;> rfl
  have overridden : ∀ (own : List Json) (f : Json),
      decide (∀ other ∈ own, nameAndPlace f ≠ nameAndPlace other) =
        !(own.map nameAndPlace).contains (nameAndPlace f) := by
    intro own f
    rw [Bool.eq_iff_iff]
    simp only [decide_eq_true_eq, Bool.not_eq_true', List.contains_eq_mem, decide_eq_false_iff_not,
      List.mem_map, not_exists, not_and]
    exact ⟨fun apart other member same => apart other member same.symm,
      fun apart other member same => apart other member same.symm⟩
  unfold accounted parameterObjects inheritedParameters ownParameters resolved
  simp only [bodies, overridden]
  rfl

def Api.Method.at (m : Method) : Location → List Parameter
  | .query => m.query
  | .body => m.body
  | .formData => m.formData
  | .header => m.header
  | .path => m.path

-- A method has one parameter for each of these objects. They are shared out by location; all but the
-- headers stand in one list as well, the required ones first.
def Accounts (rules : NameRules) (fragments : List Json) (m : Method) : Prop :=
  ∃ parameters, List.Forall₂ (StandsFor rules) fragments parameters ∧
    (∀ location, m.at location = parameters.filter (·.location = location)) ∧
    m.parameters =
      (parameters.filter fun p => p.location ≠ .header ∧ p.required = true) ++
      (parameters.filter fun p => p.location ≠ .header ∧ p.required = false)

theorem method_accounts (pathItem : Fields) (url : String) (verb : Verb) (body : Json)
    (name : String) :
    Accounts rules (accounted doc pathItem body)
      ((operationAt pathItem url verb body).method rules doc name) := by
  refine ⟨operationParameters rules doc (operationAt pathItem url verb body), ?_, ?_, ?_⟩
  · rw [accounted_eq doc pathItem url verb body]
    exact parametersFrom_each [] _
  · intro location
    cases location <;> rfl
  · simp only [Operation.method, optionalLast, List.filter_filter]
    congr 1 <;>
    · apply List.filter_congr
      intro p _
      rw [Bool.eq_iff_iff]
      simp [and_comm]

theorem operationAt_of_mem {op : Operation} (member : op ∈ doc.operations) :
    ∃ paths item pathItem, doc.paths = some paths ∧ (op.url, item) ∈ paths ∧
      doc.target? item = some (.obj pathItem) ∧ (op.verb.name, op.body) ∈ pathItem ∧
      op = operationAt pathItem op.url op.verb op.body := by
  obtain ⟨paths, item, found, within, ofPath⟩ := Document.mem_operations.mp member
  obtain ⟨pathItem, target, field, _, shared⟩ := Operation.mem_ofPath.mp ofPath
  refine ⟨paths, item, pathItem, found, within, target, field, ?_⟩
  rw [operationAt, ← shared]

theorem parameters_accounted (rules : NameRules) (doc : Document) :
    (∀ (pathItem : Fields) (url : String) (verb : Verb) (body : Json) (name : String),
      Accounts rules (accounted doc pathItem body)
        ((operationAt pathItem url verb body).method rules doc name)) ∧
    ∀ c ∈ (Api.ofDocument rules doc).controllers, ∀ m ∈ c.methods, ∃ paths item pathItem body,
      doc.paths = some paths ∧ (m.url, item) ∈ paths ∧ doc.target? item = some (.obj pathItem) ∧
      (m.verb.name, body) ∈ pathItem ∧ Accounts rules (accounted doc pathItem body) m := by
  refine ⟨method_accounts, ?_⟩
  intro c member m within
  obtain ⟨op, declared, _, taken, rfl⟩ := Controllers.mem_methods_finished member within
  obtain ⟨paths, item, pathItem, found, entry, target, field, same⟩ := operationAt_of_mem declared
  refine ⟨paths, item, pathItem, op.body, found, entry, target, field, ?_⟩
  rw [same]
  exact method_accounts pathItem op.url op.verb op.body _

def parameterObject (name place : String) : Json := .obj [("name", .str name), ("in", .str place)]

-- The path and the operation both declare a query parameter `id`; of the others one has no known
-- location and one leads nowhere.
def mixedBody : Json :=
  .obj [
    ("requestBody", .obj []),
    ("parameters", .arr [parameterObject "id" "query", parameterObject "token" "header",
      parameterObject "tab" "cookie", .obj [("$ref", .str "#/nowhere")]])]

def mixedItem : Fields :=
  [("parameters", .arr [parameterObject "id" "query", parameterObject "id" "path"]),
    ("post", mixedBody)]

def mixed : Document :=
  { root := .obj [("openapi", .str "3.1.0"), ("paths", .obj [("/users", .obj mixedItem)])] }

theorem parameters_accounted_mixed :
    let rules : NameRules := ⟨id, id, id⟩
    accounted mixed mixedItem mixedBody = [ofRequestBody (.obj []), parameterObject "id" "path",
      parameterObject "id" "query", parameterObject "token" "header"] ∧
    Accounts rules (accounted mixed mixedItem mixedBody)
      ((operationAt mixedItem "/users" .post mixedBody).method rules mixed "users") ∧
    ∃ c ∈ (Api.ofDocument rules mixed).controllers, ∃ m ∈ c.methods, ∃ paths item pathItem body,
      mixed.paths = some paths ∧ (m.url, item) ∈ paths ∧ mixed.target? item = some (.obj pathItem) ∧
      (m.verb.name, body) ∈ pathItem ∧ Accounts rules (accounted mixed pathItem body) m := by
  intro rules
  have result : Controllers.names (Api.ofDocument rules mixed).controllers = ["Default"] := rfl
  obtain ⟨c, member, _⟩ := List.mem_map.mp (result ▸ List.mem_singleton_self "Default")
  obtain ⟨m, within⟩ := List.exists_mem_of_ne_nil _ (Controllers.methods_ne_nil member)
  exact ⟨rfl, (parameters_accounted rules mixed).1 mixedItem "/users" .post mixedBody "users",
    c, member, m, within, (parameters_accounted rules mixed).2 c member m within⟩

end ClientGen
