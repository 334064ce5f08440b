import ClientGen.Proofs.Controllers.Gathering
import ClientGen.Proofs.Controllers.Likeness

namespace ClientGen.Controllers

open Api

structure Continues (before after : Controller) : Prop where
  name : after.name = before.name
  description : after.description = before.description
  methods : before.methods <+: after.methods
  imports : before.imports <+: after.imports

-- Each controller goes on at its place, and new ones come after all of them.
inductive Grows : List Controller → List Controller → Prop where
  | new (after : List Controller) : Grows [] after
  | kept {c d : Controller} {before after : List Controller} (head : Continues c d)
      (tail : Grows before after) : Grows (c :: before) (d :: after)

variable {rules : NameRules} {doc : Document} {c d e : Controller}
  {before middle after : List Controller}

theorem Continues.refl (c : Controller) : Continues c c :=
  ⟨rfl, rfl, List.prefix_refl _, List.prefix_refl _⟩

theorem Continues.trans (one : Continues c d) (two : Continues d e) : Continues c e :=
  ⟨two.name.trans one.name, two.description.trans one.description, one.methods.trans two.methods,
    one.imports.trans two.imports⟩

namespace Grows

theorem append (before new : List Controller) : Grows before (before ++ new) := by
  induction before with
  | nil => exact .new _
  | cons c rest ih => exact .kept (.refl c) ih

theorem refl (controllers : List Controller) : Grows controllers controllers := by
  simpa using append controllers []

theorem trans (one : Grows before middle) (two : Grows middle after) : Grows before after := by
  induction one generalizing after with
  | new => exact .new _
  | kept head _ ih =>
    cases two with
    | kept later tail => exact .kept (head.trans later) (ih tail)

theorem parts (grows : Grows before after) :
    ∃ kept new, after = kept ++ new ∧ List.Forall₂ Continues before kept := by
  induction grows with
  | new after => exact ⟨[], after, rfl, .nil⟩
  | @kept c d _ _ head _ ih =>
    obtain ⟨kept, new, rfl, each⟩ := ih
    exact ⟨d :: kept, new, rfl, .cons head each⟩

end Grows

theorem grows_ensure (name : String) (controllers : List Controller) :
    Grows controllers (ensure name controllers) := by
  rw [ensure_eq]
  split
  · exact .refl _
  · exact .append _ _

theorem grows_modify {change : Controller → Controller} (continues : ∀ c, Continues c (change c))
    (name : String) (controllers : List Controller) :
    Grows controllers (modify name change controllers) := by
  induction controllers with
  | nil => exact .new _
  | cons c rest ih =>
    refine .kept ?_ ih
    dsimp only
    split
    · exact continues c
    · exact .refl c

theorem prefix_addImports (imports names : List String) : imports <+: addImports imports names := by
  induction names generalizing imports with
  | nil => exact List.prefix_refl _
  | cons name rest ih =>
    refine List.IsPrefix.trans ?_ (ih _)
    dsimp only
    split
    · exact List.prefix_refl _
    · exact List.prefix_append _ _

theorem continues_addMethod (op : Operation) (c : Controller) :
    Continues c (addMethod rules doc op c) :=
  ⟨rfl, rfl, List.prefix_append _ _, prefix_addImports _ _⟩

theorem grows_file (op : Operation) (controllers : List Controller) :
    Grows controllers (file rules doc controllers op) :=
  (grows_ensure _ _).trans (grows_modify (continues_addMethod op) _ _)

theorem grows_filing (ops : List Operation) (controllers : List Controller) :
    Grows controllers (ops.foldl (file rules doc) controllers) := by
  induction ops generalizing controllers with
  | nil => exact .refl _
  | cons op rest ih => exact (grows_file op controllers).trans (ih _)

theorem operations_withPath {fields : Fields} (root : doc.root.obj? = some fields)
    (spares : doc.Spares "paths") (url : String) (item : Json) :
    (doc.withPath url item).operations =
      doc.operations ++ Operation.ofPath (doc.withPath url item) url item := by
  have agree := doc.agree_withPath url item
  have known : ∀ entry ∈ doc.paths.getD [], entry ∈ doc.paths.getD [] := fun _ member => member
  rw [Document.withPath, Document.operations_withPaths root, List.flatMap_append,
    List.flatMap_singleton]
  exact congrArg (· ++ _) (agree.ofPaths spares known)

theorem path_appended (rules : NameRules) (doc : Document) (spares : doc.Spares "paths") (url : String)
    (item : Json) : ∃ kept new, ofDocument rules (doc.withPath url item) = kept ++ new ∧
      List.Forall₂ Continues (ofDocument rules doc) kept := by
  apply Grows.parts
  cases root : doc.root.obj? with
  | none =>
    rw [Document.withPath, Document.withPaths_of_other root]
    exact .refl _
  | some fields =>
    have agree := doc.agree_withPath url item
    have before : doc.operations.foldl (file rules (doc.withPath url item))
        (declared rules (doc.withPath url item)) = ofDocument rules doc := by
      rw [agree.filing spares (agree.edition (by decide)), ofDocument, declared, declared,
        agree.tags (by decide)]
    have after : ofDocument rules (doc.withPath url item) =
        (Operation.ofPath (doc.withPath url item) url item).foldl (file rules (doc.withPath url item))
          (ofDocument rules doc) := by
      rw [← before, ← List.foldl_append, ← operations_withPath root spares, ofDocument]
    rw [after]
    exact grows_filing _ _

-- The new path has one operation for the declared tag, whose method needs a number, and one for a new tag.
def petHouse : Document :=
  { root := .obj [
      ("tags", .arr [.obj [("name", .str "Pet"), ("description", .str "animals")]]),
      ("paths", .obj [("/pets", .obj [("get", .obj [
        ("tags", .arr [.str "Pet"]),
        ("responses", .obj [("200", .obj [("$ref", .str "#/responses/Pets")])])])])]),
      ("responses", .obj [("Pets", .obj [("schema", .obj [("$ref", .str "#/definitions/Pet")])])])] }

def nursery : Json :=
  .obj [
    ("put", .obj [("tags", .arr [.str "Pet"]), ("parameters", .arr [
      .obj [("name", .str "young"), ("in", .str "body"),
        ("schema", .obj [("$ref", .str "#/definitions/Young")])]])]),
    ("get", .obj [])]

theorem path_appended_nursery :
    let rules : NameRules := ⟨id, fun _ => "call", id⟩
    let larger := petHouse.withPath "/nursery" nursery
    petHouse.Spares "paths" ∧
    (ofDocument rules petHouse).map (fun c => (c.name, c.methods.map (·.name), c.imports)) =
      [("Pet", ["call"], ["Pet"])] ∧
    (ofDocument rules larger).map (fun c => (c.name, c.methods.map (·.name), c.imports)) =
      [("Pet", ["call", "call_1"], ["Pet", "Young"]), ("Default", ["call"], [])] ∧
    ∃ kept new, ofDocument rules larger = kept ++ new ∧
      List.Forall₂ Continues (ofDocument rules petHouse) kept := by
  intro rules larger
  have spares : petHouse.Spares "paths" := by decide
  exact ⟨spares, by decide +kernel, by decide +kernel,
    path_appended rules petHouse spares "/nursery" nursery⟩

end ClientGen.Controllers
