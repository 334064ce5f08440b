import ClientGen.Proofs.Api.References
import ClientGen.Proofs.Document.Parts

namespace ClientGen

open Api

variable {rules : NameRules} {one other : Document} {a b op : Operation}

def Operation.success (op : Operation) : Option Json :=
  (op.body.get? "responses").bind (·.get? "200")

theorem Operation.occurs_success {response : Json} (op : Operation)
    (found : op.success = some response) : response.Occurs op.body := by
  obtain ⟨responses, all, success⟩ := Option.bind_eq_some_iff.mp found
  exact .trans (Json.occurs_get? success) (Json.occurs_get? all)

-- What `a` says in the first document, `b` says in the other.
structure Alike (one other : Document) (a b : Operation) : Prop where
  url : b.url = a.url
  verb : b.verb = a.verb
  tag : b.tag = a.tag
  description : operationDescription b = operationDescription a
  shared : b.shared.filterMap other.target? = a.shared.filterMap one.target?
  own : ownParameters other b = ownParameters one a
  request : (b.body.get? "requestBody").bind other.target? =
    (a.body.get? "requestBody").bind one.target?
  response : b.success.bind other.target? = a.success.bind one.target?

namespace Alike

theorem parameters (alike : Alike one other a b) (edition : other.edition = one.edition) :
    parameterObjects other b = parameterObjects one a := by
  have bodies : requestBody other b = requestBody one a := by
    rw [requestBody, requestBody, edition, alike.request]
  rw [parameterObjects, parameterObjects, inheritedParameters, inheritedParameters, bodies, alike.own,
    alike.shared]

theorem result (alike : Alike one other a b) (edition : other.edition = one.edition) :
    resultType rules other b = resultType rules one a := by
  have response := alike.response
  unfold Operation.success at response
  unfold resultType
  rw [response, edition]

theorem method (alike : Alike one other a b) (edition : other.edition = one.edition) (name : String) :
    b.method rules other name = a.method rules one name := by
  simp only [Operation.method, operationParameters, alike.parameters edition, alike.result edition,
    alike.url, alike.verb, alike.description]

theorem addMethod (alike : Alike one other a b) (edition : other.edition = one.edition)
    (c : Controller) : Controllers.addMethod rules other b c = Controllers.addMethod rules one a c := by
  simp only [Controllers.addMethod, alike.method edition, alike.url]

theorem file (alike : Alike one other a b) (edition : other.edition = one.edition)
    (controllers : List Controller) :
    Controllers.file rules other controllers b = Controllers.file rules one controllers a := by
  have change : Controllers.addMethod rules other b = Controllers.addMethod rules one a :=
    funext (alike.addMethod edition)
  simp only [Controllers.file, change, alike.tag]

end Alike

namespace Controllers

theorem filing_alike {as bs : List Operation} (alike : List.Forall₂ (Alike one other) as bs)
    (edition : other.edition = one.edition) (controllers : List Controller) :
    bs.foldl (file rules other) controllers = as.foldl (file rules one) controllers := by
  induction alike generalizing controllers with
  | nil => rfl
  | cons head _ ih => rw [List.foldl_cons, List.foldl_cons, head.file edition, ih]

theorem ofDocument_alike (alike : List.Forall₂ (Alike one other) one.operations other.operations)
    (edition : other.edition = one.edition) (tags : other.tags = one.tags) :
    ofDocument rules other = ofDocument rules one := by
  rw [ofDocument, ofDocument, declared, declared, tags, filing_alike alike edition]

end Controllers

theorem Document.mem_operations_entry {doc : Document} {url : String} {item : Json}
    (entry : (url, item) ∈ doc.paths.getD []) (member : op ∈ Operation.ofPath doc url item) :
    op ∈ doc.operations := List.mem_flatMap.mpr ⟨(url, item), entry, member⟩

theorem Document.occurs_entry {doc : Document} {url : String} {item : Json}
    (entry : (url, item) ∈ doc.paths.getD []) : item.Occurs doc.root := by
  obtain ⟨paths, found, member⟩ := mem_getD entry
  exact Json.occurs_fields found member

theorem Document.operations_withPaths {doc : Document} {fields : Fields} (root : doc.root.obj? = some fields)
    (paths : Fields) : (doc.withPaths paths).operations =
      paths.flatMap fun (url, item) => Operation.ofPath (doc.withPaths paths) url item := by
  rw [Document.operations, Document.withPaths_paths, root]
  rfl

namespace Document.AgreeBut

variable {part url : String} {item : Json}

theorem ofPath (agree : AgreeBut part one other) (spares : one.Spares part)
    (inside : item.Occurs one.root) : Operation.ofPath other url item = Operation.ofPath one url item := by
  rw [Operation.ofPath, Operation.ofPath, agree.target? spares inside]

theorem ofPaths (agree : AgreeBut part one other) (spares : one.Spares part) {paths : Fields}
    (known : ∀ entry ∈ paths, entry ∈ one.paths.getD []) :
    (paths.flatMap fun (url, item) => Operation.ofPath other url item) =
      paths.flatMap fun (url, item) => Operation.ofPath one url item := by
  apply List.flatMap_congr
  intro entry member
  exact agree.ofPath spares (Document.occurs_entry (known entry member))

theorem alike (agree : AgreeBut part one other) (spares : one.Spares part)
    (member : op ∈ one.operations) : Alike one other op op where
  url := rfl
  verb := rfl
  tag := rfl
  description := rfl
  shared := agree.targets spares (one.occurs_operation member).2
  own := agree.targets spares fun _ listed =>
    .trans (Json.occurs_listed listed) (one.occurs_operation member).1
  request := by
    cases found : op.body.get? "requestBody" with
    | none => rfl
    | some body =>
      exact agree.target? spares (.trans (Json.occurs_get? found) (one.occurs_operation member).1)
  response := by
    cases found : op.success with
    | none => rfl
    | some response =>
      exact agree.target? spares (.trans (op.occurs_success found) (one.occurs_operation member).1)

theorem filing (agree : AgreeBut part one other) (spares : one.Spares part)
    (edition : other.edition = one.edition) (controllers : List Controller) :
    one.operations.foldl (Controllers.file rules other) controllers =
      one.operations.foldl (Controllers.file rules one) controllers :=
  Controllers.filing_alike (List.forall₂_same.mpr fun _ member => agree.alike spares member) edition
    controllers

end Document.AgreeBut

end ClientGen
