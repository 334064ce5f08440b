import ClientGen.Proofs.Controllers.Matching

namespace ClientGen

open Api

variable {rules : NameRules} {doc one other : Document} {part : String}

namespace Document.AgreeBut

theorem operations (agree : AgreeBut part one other) (spares : one.Spares part)
    (elsewhere : part ≠ "paths") : other.operations = one.operations := by
  rw [Document.operations, Document.operations, agree.paths elsewhere]
  exact agree.ofPaths spares fun _ member => member

theorem collect (agree : AgreeBut part one other) (spares : one.Spares part)
    (edition : other.edition = one.edition) {ops : List Operation}
    (known : ∀ op ∈ ops, op ∈ one.operations) (c : Controller) :
    Controllers.collect rules other ops c = Controllers.collect rules one ops c :=
  List.foldl_ext _ _ c fun c op member => (agree.alike spares (known op member)).addMethod edition c

end Document.AgreeBut

namespace Controllers

-- Controllers that differ in their descriptions at most.
structure SameWork (c d : Controller) : Prop where
  name : d.name = c.name
  methods : d.methods = c.methods
  imports : d.imports = c.imports

theorem filed_agree (agree : Document.AgreeBut part one other) (spares : one.Spares part)
    (edition : other.edition = one.edition) (elsewhere : part ≠ "paths") (name : String) :
    filed rules other name = filed rules one name := by
  rw [filed, filed, agree.operations spares elsewhere]
  exact agree.collect spares edition (fun _ member => (List.mem_filter.mp member).1) _

theorem description_undeclared {c : Controller} (none : doc.tags = [])
    (member : c ∈ (Api.ofDocument rules doc).controllers) : c.description = noDescription := by
  obtain ⟨start, opened, _, rfl⟩ := mem_finished.mp member
  have empty : declared rules doc = [] := by rw [declared, none]; rfl
  rw [started, empty] at opened
  rcases mem_opened.mp opened with declared | ⟨_, op, _, rfl⟩
  · cases declared
  · rfl

theorem tags_describe (rules : NameRules) (doc : Document) (spares : doc.Spares "tags") :
    let untagged := Api.ofDocument rules (doc.without "tags")
    Api.SameUpTo SameWork (Api.ofDocument rules doc) untagged ∧
      ∀ c ∈ untagged.controllers, c.description = noDescription := by
  have agree := doc.agree_without "tags"
  have edition := agree.edition (by decide)
  refine ⟨agree.sameUpTo (by decide) (fun c d same model => by rw [same.imports]) ?_, ?_⟩
  · apply matched_finished (.of_eq (agree.operations spares (by decide))) (fun _ _ same => same.name)
    intro start _ later _ named
    have whole : filed rules (doc.without "tags") later.name = filed rules doc start.name := by
      rw [named, filed_agree agree spares edition (by decide)]
    exact ⟨named, by simp only [finish, whole], by simp only [finish, whole]⟩
  · intro c member
    apply description_undeclared ?_ member
    rw [Document.tags, Json.list, Document.without_get?]
    rfl

-- Two tags describe one controller, one has no operation, and the paths meet them in another order.
def market : Document :=
  { root := .obj [
      ("tags", .arr [
        .obj [("name", .str "Stall"), ("description", .str "open\nall day")],
        .obj [("name", .str "Cellar"), ("description", .str "closed")],
        .obj [("name", .str "Fish")],
        .obj [("name", .str "Stall"), ("description", .str "open")]]),
      ("paths", .obj [
        ("/fish", .obj [("get", .obj [("tags", .arr [.str "Fish"])])]),
        ("/bread", .obj [("get", .obj [("tags", .arr [.str "Stall"])])])])] }

theorem tags_describe_market :
    let rules : NameRules := ⟨id, id, id⟩
    let summary := fun doc => (Api.ofDocument rules doc).controllers.map fun c => (c.name, c.description)
    market.Spares "tags" ∧
    summary market = [("Stall", "open"), ("Fish", noDescription)] ∧
    summary (market.without "tags") = [("Fish", noDescription), ("Stall", noDescription)] ∧
    Api.SameUpTo SameWork (Api.ofDocument rules market) (Api.ofDocument rules (market.without "tags")) := by
  intro rules summary
  have spares : market.Spares "tags" := by decide
  obtain ⟨same, _⟩ := tags_describe rules market spares
  exact ⟨spares, by decide +kernel, by decide +kernel, same⟩

end Controllers

end ClientGen
