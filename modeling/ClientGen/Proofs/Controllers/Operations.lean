import ClientGen.Proofs.Controllers.Order
import ClientGen.Proofs.Json.DistinctKeys

namespace ClientGen

open Api

variable {rules : NameRules} {doc : Document} {url : String} {item body : Json} {op : Operation}

theorem Api.Verb.ofName?_eq_some {key : String} {verb : Verb} :
    Verb.ofName? key = some verb ↔ key = verb.name := by
  constructor
  · intro found
    have named := List.find?_some found
    exact (beq_iff_eq.mp named).symm
  · rintro rfl
    exact Verb.ofName?_name verb

namespace Operation

theorem mem_ofPath : op ∈ ofPath doc url item ↔ ∃ fields, doc.target? item = some (.obj fields) ∧
    (op.verb.name, op.body) ∈ fields ∧ op.url = url ∧
    op.shared = ((fields.lookup "parameters").bind Json.arr?).getD [] := by
  have objects : ∀ fields, (doc.target? item).bind Json.obj? = some fields ↔
      doc.target? item = some (.obj fields) := by
    intro fields
    cases doc.target? item with
    | none => simp
    | some value => cases value <;> simp [Json.obj?]
  unfold ofPath
  split
  · rename_i none
    constructor
    · intro member
      cases member
    · rintro ⟨fields, found, _⟩
      rw [(objects fields).mpr found] at none
      cases none
  · rename_i fields found
    rw [objects] at found
    constructor
    · intro member
      obtain ⟨⟨key, value⟩, within, read⟩ := List.mem_filterMap.mp member
      obtain ⟨verb, named, rfl⟩ := Option.map_eq_some_iff.mp read
      rw [Verb.ofName?_eq_some] at named
      exact ⟨fields, found, named ▸ within, rfl, rfl⟩
    · rintro ⟨others, again, within, rfl, shared⟩
      rw [found] at again
      cases again
      refine List.mem_filterMap.mpr ⟨_, within, ?_⟩
      simp only [Verb.ofName?_name, Option.map_some, ← shared]

theorem nodup_ofPath (distinct : ∀ fields, doc.target? item = some (.obj fields) →
    (Fields.keys fields).Nodup) :
    (ofPath doc url item).Pairwise fun a b => a.verb ≠ b.verb := by
  unfold ofPath
  split
  · exact .nil
  · rename_i fields found
    have keys : (Fields.keys fields).Nodup := by
      obtain ⟨value, target, object⟩ := Option.bind_eq_some_iff.mp found
      cases value with
      | obj _ =>
        cases object
        exact distinct _ target
      | _ => cases object
    refine List.pairwise_filterMap.mpr ((List.pairwise_map.mp keys).imp ?_)
    intro a b different one readOne two readTwo same
    obtain ⟨v, nameOne, rfl⟩ := Option.map_eq_some_iff.mp readOne
    obtain ⟨w, nameTwo, rfl⟩ := Option.map_eq_some_iff.mp readTwo
    rw [Verb.ofName?_eq_some] at nameOne nameTwo
    cases same
    exact different (nameOne.trans nameTwo.symm)

end Operation

-- The value at a path, or what it refers to, is an object with this value under a verb.
def Declares (doc : Document) (url : String) (verb : Verb) (body : Json) : Prop :=
  ∃ paths item fields, doc.paths = some paths ∧ paths.lookup url = some item ∧
    doc.target? item = some (.obj fields) ∧ fields.lookup verb.name = some body

theorem Document.mem_operations : op ∈ doc.operations ↔ ∃ paths item, doc.paths = some paths ∧
    (op.url, item) ∈ paths ∧ op ∈ Operation.ofPath doc op.url item := by
  unfold Document.operations
  cases doc.paths with
  | none => simp
  | some paths =>
    simp only [Option.getD_some, Option.some.injEq, List.mem_flatMap]
    constructor
    · rintro ⟨⟨url, item⟩, member, within⟩
      obtain ⟨_, _, _, rfl, _⟩ := Operation.mem_ofPath.mp within
      exact ⟨paths, item, rfl, member, within⟩
    · rintro ⟨_, item, rfl, member, within⟩
      exact ⟨_, member, within⟩

theorem Document.distinctKeys_paths {paths : Fields} (distinct : doc.root.distinctKeys = true)
    (found : doc.paths = some paths) : (Json.obj paths).distinctKeys = true := by
  obtain ⟨value, inside, object⟩ := Option.bind_eq_some_iff.mp found
  cases value with
  | obj _ =>
    cases object
    exact Json.distinctKeys_get? distinct inside
  | _ => cases object

theorem Document.distinctKeys_item {paths fields : Fields} (distinct : doc.root.distinctKeys = true)
    (found : doc.paths = some paths) (member : (url, item) ∈ paths)
    (target : doc.target? item = some (.obj fields)) : (Json.obj fields).distinctKeys = true :=
  doc.distinctKeys_target? distinct
    ((Json.distinctKeys_obj.mp (doc.distinctKeys_paths distinct found)).2 _ member) target

theorem declares_of_mem (distinct : doc.root.distinctKeys = true) (member : op ∈ doc.operations) :
    Declares doc op.url op.verb op.body := by
  obtain ⟨paths, item, found, within, ofPath⟩ := Document.mem_operations.mp member
  obtain ⟨fields, target, field, _⟩ := Operation.mem_ofPath.mp ofPath
  have urls := (Json.distinctKeys_obj.mp (doc.distinctKeys_paths distinct found)).1
  have keys := (Json.distinctKeys_obj.mp (doc.distinctKeys_item distinct found within target)).1
  exact ⟨paths, item, fields, found, Fields.lookup_of_mem urls within, target,
    Fields.lookup_of_mem keys field⟩

theorem mem_of_declares {verb : Verb} (declared : Declares doc url verb body) :
    ∃ op ∈ doc.operations, op.url = url ∧ op.verb = verb := by
  obtain ⟨paths, item, fields, found, lookup, target, field⟩ := declared
  refine ⟨⟨url, verb, body, ((fields.lookup "parameters").bind Json.arr?).getD []⟩, ?_, rfl, rfl⟩
  exact Document.mem_operations.mpr ⟨paths, item, found, Fields.mem_of_lookup lookup,
    Operation.mem_ofPath.mpr ⟨fields, target, Fields.mem_of_lookup field, rfl, rfl⟩⟩

-- Operations of one path differ in the verb, those of two paths in the path.
theorem Document.nodup_operations (distinct : doc.root.distinctKeys = true) :
    (doc.operations.map fun op => (op.url, op.verb)).Nodup := by
  apply List.pairwise_map.mpr
  unfold Document.operations
  cases found : doc.paths with
  | none => exact .nil
  | some paths =>
    have urls := (Json.distinctKeys_obj.mp (doc.distinctKeys_paths distinct found)).1
    refine List.pairwise_flatMap.mpr ⟨?_, ?_⟩
    · rintro ⟨url, item⟩ member
      refine (Operation.nodup_ofPath ?_).imp fun different same => different (Prod.mk.inj same).2
      intro fields target
      exact (Json.distinctKeys_obj.mp (doc.distinctKeys_item distinct found member target)).1
    · apply (List.pairwise_map.mp urls).imp
      rintro ⟨url, item⟩ ⟨other, value⟩ different a inOne b inTwo same
      obtain ⟨_, _, _, first, _⟩ := Operation.mem_ofPath.mp inOne
      obtain ⟨_, _, _, second, _⟩ := Operation.mem_ofPath.mp inTwo
      exact different (first.symm.trans ((Prod.mk.inj same).1.trans second))

def leadingTag (body : Json) : String :=
  match body.get? "tags" with
  | some (.arr (.str tag :: _)) => tag
  | _ => "Default"

theorem Operation.tag_eq (op : Operation) : op.tag = leadingTag op.body := by
  unfold Operation.tag leadingTag Json.list
  cases op.body.get? "tags" with
  | none => rfl
  | some value =>
    cases value with
    | arr tags =>
      cases tags with
      | nil => rfl
      | cons first _ => cases first <;> rfl
    | _ => rfl

theorem operations_filed (rules : NameRules) (doc : Document)
    (distinct : doc.root.distinctKeys = true) :
    let controllers := (Api.ofDocument rules doc).controllers
    let endpoints := (controllers.flatMap (·.methods)).map fun m => (m.url, m.verb)
    endpoints.Nodup ∧
    (∀ url verb, (url, verb) ∈ endpoints ↔ ∃ body, Declares doc url verb body) ∧
    ∀ c ∈ controllers, ∀ m ∈ c.methods, ∃ body, Declares doc m.url m.verb body ∧
      c.name = rules.controller (leadingTag body) ∧
      (m.name = rules.method m.url ∨ ∃ k, 1 ≤ k ∧ m.name = numberedName (rules.method m.url) k) := by
  intro controllers endpoints
  have all : endpoints.Perm (doc.operations.map fun op => (op.url, op.verb)) :=
    ((Controllers.methods_arrange_perm _).map _).trans
      (Controllers.methods_perm (fun op => (op.url, op.verb)) fun _ _ => rfl)
  refine ⟨all.nodup_iff.mpr (doc.nodup_operations distinct), ?_, ?_⟩
  · intro url verb
    rw [all.mem_iff]
    constructor
    · intro member
      obtain ⟨op, declared, same⟩ := List.mem_map.mp member
      cases same
      exact ⟨op.body, declares_of_mem distinct declared⟩
    · rintro ⟨body, declared⟩
      obtain ⟨op, member, rfl, rfl⟩ := mem_of_declares declared
      exact List.mem_map.mpr ⟨op, member, rfl⟩
  · intro c member m within
    obtain ⟨op, declared, ofTag, taken, rfl⟩ := Controllers.mem_methods_finished member within
    refine ⟨op.body, declares_of_mem distinct declared, ?_, freshName_form _ taken⟩
    rw [← op.tag_eq, ofTag]

-- One path refers to another part, one leads nowhere, tags are missing or of the wrong kind, and all
-- names are the same.
def scattered : Document :=
  { root := .obj [
      ("paths", .obj [
        ("/pets", .obj [("$ref", .str "#/x-shared/pets")]),
        ("/gone", .obj [("$ref", .str "#/x-shared/gone")]),
        ("/stats", .obj [("parameters", .arr []), ("get", .null)])]),
      ("x-shared", .obj [
        ("pets", .obj [
          ("get", .obj [("tags", .str "Pet")]),
          ("delete", .obj [("tags", .arr [.str "Owner", .str "Pet"])])])])] }

theorem operations_filed_scattered :
    let rules : NameRules := ⟨fun _ => "Api", fun _ => "call", id⟩
    let controllers := (Api.ofDocument rules scattered).controllers
    let endpoints := (controllers.flatMap (·.methods)).map fun m => (m.url, m.verb)
    scattered.root.distinctKeys = true ∧ endpoints.Nodup ∧ ("/pets", .delete) ∈ endpoints ∧
    ∃ c ∈ controllers, ∃ m ∈ c.methods, m.url = "/pets" ∧ m.verb = .delete ∧
      ∃ body, Declares scattered m.url m.verb body ∧ c.name = rules.controller (leadingTag body) ∧
        (m.name = rules.method m.url ∨
          ∃ k, 1 ≤ k ∧ m.name = numberedName (rules.method m.url) k) := by
  intro rules controllers endpoints
  have distinct : scattered.root.distinctKeys = true := by decide
  obtain ⟨nodup, exactly, filed⟩ := operations_filed rules scattered distinct
  have declared : Declares scattered "/pets" .delete (.obj [("tags", .arr [.str "Owner", .str "Pet"])]) :=
    ⟨_, _, _, rfl, rfl, rfl, rfl⟩
  have member := (exactly "/pets" .delete).mpr ⟨_, declared⟩
  obtain ⟨c, inList, m, inController, same⟩ := Controllers.exists_method member
  obtain ⟨url, verb⟩ := Prod.mk.inj same
  exact ⟨distinct, nodup, member, c, inList, m, inController, url, verb,
    filed c inList m inController⟩

end ClientGen
