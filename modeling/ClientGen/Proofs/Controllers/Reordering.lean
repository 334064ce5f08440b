import ClientGen.Proofs.Controllers.Matching

namespace ClientGen

open Api

variable {rules : NameRules} {doc one other : Document}

namespace Controllers

variable {c : Controller} {ops : List Operation} {name : String}

-- No two operations of a controller want one name for their methods.
def NoCollisions (rules : NameRules) (doc : Document) : Prop :=
  doc.operations.Pairwise fun a b =>
    rules.controller a.tag = rules.controller b.tag → rules.method a.url ≠ rules.method b.url

instance (rules : NameRules) (doc : Document) : Decidable (NoCollisions rules doc) :=
  inferInstanceAs (Decidable (List.Pairwise _ doc.operations))

def operationsOf (rules : NameRules) (doc : Document) (name : String) : List Operation :=
  doc.operations.filter fun op => rules.controller op.tag == name

-- The names of methods for these operations, as long as none is taken.
def wishes (rules : NameRules) (ops : List Operation) : List String :=
  ops.map fun op => rules.method op.url

def unnumbered (rules : NameRules) (doc : Document) (op : Operation) : Method :=
  op.method rules doc (rules.method op.url)

theorem methods_collect_distinct (distinct : (c.methods.map (·.name) ++ wishes rules ops).Nodup) :
    (collect rules doc ops c).methods = c.methods ++ ops.map (unnumbered rules doc) := by
  induction ops generalizing c with
  | nil => simp [collect]
  | cons op rest ih =>
    have free : rules.method op.url ∉ c.methods.map (·.name) := by
      intro taken
      exact (List.nodup_append.mp distinct).2.2 _ taken _ List.mem_cons_self rfl
    have added : (addMethod rules doc op c).methods = c.methods ++ [unnumbered rules doc op] := by
      rw [addMethod, freshName_of_free free]
      rfl
    have later : ((addMethod rules doc op c).methods.map (·.name) ++ wishes rules rest).Nodup := by
      rw [added]
      simpa [unnumbered, wishes, Operation.method] using distinct
    have step : collect rules doc (op :: rest) c = collect rules doc rest (addMethod rules doc op c) := rfl
    rw [step, ih later, added, List.append_assoc]
    rfl

theorem methods_filed (distinct : (wishes rules (operationsOf rules doc name)).Nodup) :
    (filed rules doc name).methods = (operationsOf rules doc name).map (unnumbered rules doc) :=
  methods_collect_distinct distinct

theorem imports_filed (name : String) :
    (filed rules doc name).imports = ((filed rules doc name).methods.flatMap (·.references)).eraseDups :=
  linked_collect _ rfl

theorem wishes_distinct (apart : NoCollisions rules doc) (name : String) :
    (wishes rules (operationsOf rules doc name)).Nodup := by
  apply List.pairwise_map.mpr
  apply (apart.filter _).imp_of_mem
  intro a b first second differ
  have same : rules.controller a.tag = name := beq_iff_eq.mp (List.mem_filter.mp first).2
  have also : rules.controller b.tag = name := beq_iff_eq.mp (List.mem_filter.mp second).2
  exact differ (same.trans also.symm)

-- Controllers that differ in the order of their imports at most.
structure Rearranged (c d : Controller) : Prop where
  name : d.name = c.name
  description : d.description = c.description
  methods : d.methods = c.methods
  imports : d.imports.Perm c.imports

section

variable (perm : other.operations.Perm one.operations)

include perm

theorem mem_started_perm (tags : other.tags = one.tags) :
    c ∈ started rules other ↔ c ∈ started rules one := by
  have same : declared rules other = declared rules one := by rw [declared, declared, tags]
  simp only [started, mem_opened, same, perm.mem_iff]

theorem methods_filed_perm (alike : ∀ op ∈ one.operations, Alike one other op op)
    (edition : other.edition = one.edition) (apart : NoCollisions rules one) (name : String) :
    (filed rules one name).methods.Perm (filed rules other name).methods := by
  have shuffled : (operationsOf rules one name).Perm (operationsOf rules other name) :=
    perm.symm.filter _
  have distinct : (wishes rules (operationsOf rules one name)).Nodup := wishes_distinct apart name
  have still : (wishes rules (operationsOf rules other name)).Nodup :=
    (shuffled.map _).nodup_iff.mp distinct
  have same : (operationsOf rules one name).map (unnumbered rules other) =
      (operationsOf rules one name).map (unnumbered rules one) := by
    apply List.map_congr_left
    intro op member
    exact (alike op (List.mem_filter.mp member).1).method edition _
  rw [methods_filed distinct, methods_filed still, ← same]
  exact shuffled.map _

theorem rearranged_finish (alike : ∀ op ∈ one.operations, Alike one other op op)
    (edition : other.edition = one.edition) (apart : NoCollisions rules one) (start : Controller) :
    Rearranged (finish rules one start) (finish rules other start) := by
  have shuffled : (filed rules one start.name).methods.Perm (filed rules other start.name).methods :=
    methods_filed_perm perm alike edition apart start.name
  have distinct : ((filed rules one start.name).methods.map (·.name)).Nodup := nodup_collect List.nodup_nil
  refine ⟨rfl, rfl, (sortMethods_eq_of_perm shuffled distinct).symm, ?_⟩
  show (filed rules other start.name).imports.Perm (filed rules one start.name).imports
  rw [imports_filed, imports_filed]
  exact eraseDups_perm (shuffled.symm.flatMap_right _)

end

theorem operations_reordered (spares : doc.Spares "paths") {paths : Fields}
    (order : paths.Perm (doc.paths.getD [])) :
    (doc.withPaths paths).operations.Perm doc.operations := by
  cases root : doc.root.obj? with
  | none => rw [Document.withPaths_of_other root]
  | some fields =>
    have known : ∀ entry ∈ paths, entry ∈ doc.paths.getD [] := fun _ member => order.mem_iff.mp member
    rw [Document.operations_withPaths root, (doc.agree_withPaths paths).ofPaths spares known]
    exact order.flatMap_right _

theorem path_order_free (rules : NameRules) (doc : Document) (spares : doc.Spares "paths")
    (apart : NoCollisions rules doc) (paths : Fields) (order : paths.Perm (doc.paths.getD [])) :
    Api.SameUpTo Rearranged (Api.ofDocument rules doc) (Api.ofDocument rules (doc.withPaths paths)) := by
  have agree := doc.agree_withPaths paths
  have perm := operations_reordered spares order
  have edition := agree.edition (by decide)
  have tags := agree.tags (by decide)
  refine agree.sameUpTo (by decide) (fun _ _ same _ => same.imports.mem_iff) ?_
  apply matched_finished perm fun _ _ same => same.name
  intro start opened later reopened named
  have before : later ∈ started rules doc := (mem_started_perm perm tags).mp reopened
  have same : later = start :=
    List.inj_on_of_nodup_map (ready_started rules doc).distinct before opened named
  rw [same]
  exact rearranged_finish perm (fun _ member => agree.alike spares member) edition apart start

-- The controller of the declared tag is met first in any order. Its imports follow the paths, its methods
-- do not.
def orchard : Document :=
  let answer (model : String) : Fields := [("responses", .obj [("200", .obj [("schema",
    .obj [("$ref", .str ("#/definitions/" ++ model))])])])]
  { root := .obj [
      ("tags", .arr [.obj [("name", .str "Fruit"), ("description", .str "what grows")]]),
      ("paths", .obj [
        ("/apples", .obj [("get", .obj (("tags", .arr [.str "Fruit"]) :: answer "Apple"))]),
        ("/gate", .obj [("get", .obj [("tags", .arr [.str "Garden"])])]),
        ("/pears", .obj [("get", .obj (("tags", .arr [.str "Fruit"]) :: answer "Pear"))]),
        ("/tools", .obj [("get", .obj [])])]),
      ("definitions", .obj [("Apple", .obj []), ("Pear", .obj [])])] }

theorem path_order_free_orchard :
    let rules : NameRules := ⟨id, id, id⟩
    let paths := (orchard.paths.getD []).reverse
    let summary := fun doc => (Api.ofDocument rules doc).controllers.map fun c => (c.name, c.imports)
    orchard.Spares "paths" ∧ NoCollisions rules orchard ∧ paths.Perm (orchard.paths.getD []) ∧
    summary orchard = [("Fruit", ["Apple", "Pear"]), ("Garden", []), ("Default", [])] ∧
    summary (orchard.withPaths paths) = [("Fruit", ["Pear", "Apple"]), ("Default", []), ("Garden", [])] ∧
    Api.SameUpTo Rearranged (Api.ofDocument rules orchard)
      (Api.ofDocument rules (orchard.withPaths paths)) := by
  intro rules paths summary
  have spares : orchard.Spares "paths" := by decide +kernel
  have apart : NoCollisions rules orchard := by decide +kernel
  have order : paths.Perm (orchard.paths.getD []) := List.reverse_perm _
  exact ⟨spares, apart, order, by decide +kernel, by decide +kernel,
    path_order_free rules orchard spares apart paths order⟩

end Controllers

end ClientGen
