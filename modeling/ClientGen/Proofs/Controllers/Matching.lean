import ClientGen.Proofs.Controllers.Imports
import ClientGen.Proofs.Controllers.Likeness

namespace ClientGen

open Api

variable {rules : NameRules} {doc one other : Document}

namespace Controllers

variable {c d start : Controller} {ops : List Operation} {controllers cs ds : List Controller}
  {same : Controller → Controller → Prop}

theorem collect_describe (ops : List Operation) (c : Controller) (text : String) :
    collect rules doc ops { c with description := text } =
      { collect rules doc ops c with description := text } := by
  induction ops generalizing c with
  | nil => rfl
  | cons op rest ih => exact ih (addMethod rules doc op c)

-- All that is filed under a name.
def filed (rules : NameRules) (doc : Document) (name : String) : Controller :=
  gather rules doc doc.operations (blank name)

theorem gather_untouched (untouched : Untouched c) :
    gather rules doc doc.operations c = { filed rules doc c.name with description := c.description } := by
  obtain ⟨name, description, methods, imports⟩ := c
  obtain ⟨rfl, rfl⟩ := untouched
  exact collect_describe _ (blank name) description

-- A controller before the first operation, as it ends up.
def finish (rules : NameRules) (doc : Document) (start : Controller) : Controller :=
  { start with
    methods := sortMethods (filed rules doc start.name).methods
    imports := (filed rules doc start.name).imports }

def HasOperations (rules : NameRules) (doc : Document) (name : String) : Prop :=
  ∃ op ∈ doc.operations, rules.controller op.tag = name

theorem filed_methods_ne_nil (name : String) :
    (filed rules doc name).methods ≠ [] ↔ HasOperations rules doc name := by
  have urls : (filed rules doc name).methods.map (·.url) =
      (doc.operations.filter fun op => rules.controller op.tag == name).map (·.url) :=
    methods_collect (fun _ _ => rfl) _ (blank name)
  have empty : (filed rules doc name).methods = [] ↔
      (doc.operations.filter fun op => rules.controller op.tag == name) = [] := by
    rw [← List.map_eq_nil_iff (f := fun m : Method => m.url), urls, List.map_eq_nil_iff]
  rw [ne_eq, empty, List.filter_eq_nil_iff]
  simp [HasOperations]

theorem mem_finished : c ∈ (Api.ofDocument rules doc).controllers ↔
    ∃ start ∈ started rules doc, HasOperations rules doc start.name ∧ c = finish rules doc start := by
  have each : ∀ start ∈ started rules doc, gather rules doc doc.operations start =
      { filed rules doc start.name with description := start.description } := fun start member =>
    gather_untouched ((ready_started rules doc).untouched start member)
  have name : ∀ name, (filed rules doc name).name = name := fun name => gather_name _ (blank name)
  show c ∈ arrange (ofDocument rules doc) ↔ _
  rw [mem_arrange, ofDocument_eq]
  constructor
  · rintro ⟨_, member, filled, rfl⟩
    obtain ⟨start, opened, rfl⟩ := List.mem_map.mp member
    rw [each start opened] at filled ⊢
    refine ⟨start, opened, (filed_methods_ne_nil _).mp filled, ?_⟩
    simp only [finish, name]
  · rintro ⟨start, opened, used, rfl⟩
    refine ⟨_, List.mem_map_of_mem opened, ?_, ?_⟩
    · rw [each start opened]
      exact (filed_methods_ne_nil _).mpr used
    · rw [each start opened]
      simp only [finish, name]

def Matched (same : Controller → Controller → Prop) (cs ds : List Controller) : Prop :=
  ∃ es, List.Forall₂ same cs es ∧ es.Perm ds

theorem Matched.any {test : Controller → Bool} (matched : Matched same cs ds)
    (agree : ∀ c d, same c d → test d = test c) : ds.any test = cs.any test := by
  obtain ⟨es, each, perm⟩ := matched
  rw [← perm.any_eq]
  clear perm
  induction each with
  | nil => rfl
  | cons head _ ih => rw [List.any_cons, List.any_cons, agree _ _ head, ih]

theorem partners (each : ∀ c ∈ cs, ∃ d ∈ ds, same c d) :
    ∃ es, List.Forall₂ same cs es ∧ ∀ e ∈ es, e ∈ ds := by
  induction cs with
  | nil => exact ⟨[], .nil, fun _ member => nomatch member⟩
  | cons c rest ih =>
    obtain ⟨d, member, head⟩ := each c List.mem_cons_self
    obtain ⟨es, tail, within⟩ := ih fun x later => each x (List.mem_cons_of_mem _ later)
    refine ⟨d :: es, .cons head tail, ?_⟩
    intro e found
    rcases List.mem_cons.mp found with rfl | later
    · exact member
    · exact within e later

theorem names_of_forall₂ (agree : ∀ c d, same c d → d.name = c.name) (each : List.Forall₂ same cs ds) :
    names ds = names cs := by
  induction each with
  | nil => rfl
  | cons head _ ih =>
    simp only [names, List.map_cons] at ih ⊢
    rw [agree _ _ head, ih]

theorem matched_of_names (distinct : (names cs).Nodup) (apart : (names ds).Nodup)
    (subset : names ds ⊆ names cs) (agree : ∀ c d, same c d → d.name = c.name)
    (each : ∀ c ∈ cs, ∃ d ∈ ds, same c d) : Matched same cs ds := by
  obtain ⟨es, matching, within⟩ := partners each
  have names : names es = names cs := names_of_forall₂ agree matching
  refine ⟨es, matching, (List.perm_ext_iff_of_nodup ?_ apart.of_map).mpr ?_⟩
  · exact (names ▸ distinct).of_map
  · intro d
    refine ⟨within d, ?_⟩
    intro member
    have named : d.name ∈ Controllers.names es := names ▸ subset (List.mem_map_of_mem member)
    obtain ⟨e, found, equal⟩ := List.mem_map.mp named
    have identical : e = d := List.inj_on_of_nodup_map apart (within e found) member equal
    exact identical ▸ found

theorem nodup_finished (rules : NameRules) (doc : Document) :
    (names (Api.ofDocument rules doc).controllers).Nodup := by
  apply (names_arrange _).nodup
  rw [names_ofDocument]
  exact (ready_started rules doc).distinct

theorem exists_started {name : String} (used : HasOperations rules doc name) :
    ∃ start ∈ started rules doc, start.name = name := by
  obtain ⟨op, member, rfl⟩ := used
  exact List.mem_map.mp (tag_mem_opened member)

theorem HasOperations.of_perm {name : String} (perm : other.operations.Perm one.operations)
    (used : HasOperations rules one name) : HasOperations rules other name := by
  obtain ⟨op, member, tag⟩ := used
  exact ⟨op, perm.mem_iff.mpr member, tag⟩

theorem matched_finished (perm : other.operations.Perm one.operations)
    (agree : ∀ c d, same c d → d.name = c.name)
    (each : ∀ start ∈ started rules one, ∀ later ∈ started rules other, later.name = start.name →
      same (finish rules one start) (finish rules other later)) :
    Matched same (Api.ofDocument rules one).controllers (Api.ofDocument rules other).controllers := by
  apply matched_of_names (nodup_finished rules one) (nodup_finished rules other) ?_ agree
  · intro c member
    obtain ⟨start, opened, used, rfl⟩ := mem_finished.mp member
    have still : HasOperations rules other start.name := used.of_perm perm
    obtain ⟨later, reopened, named⟩ := exists_started still
    exact ⟨_, mem_finished.mpr ⟨later, reopened, named ▸ still, rfl⟩, each start opened later reopened named⟩
  · intro name member
    obtain ⟨d, within, rfl⟩ := List.mem_map.mp member
    obtain ⟨later, _, used, rfl⟩ := mem_finished.mp within
    have before : HasOperations rules one later.name := used.of_perm perm.symm
    obtain ⟨start, opened, named⟩ := exists_started before
    exact List.mem_map.mpr
      ⟨_, mem_finished.mpr ⟨start, opened, named ▸ before, rfl⟩, named⟩

end Controllers

-- Two descriptions that say the same, with controllers that match one to one in whatever order.
structure Api.SameUpTo (same : Controller → Controller → Prop) (one other : Api) : Prop where
  info : other.info = one.info
  models : other.models = one.models
  enums : other.enums = one.enums
  controllers : Controllers.Matched same one.controllers other.controllers

theorem Document.AgreeBut.declarations {part : String} (agree : AgreeBut part one other)
    (elsewhere : part ∉ ["openapi", "components", "definitions"]) :
    Schema.declarations rules other = Schema.declarations rules one := by
  rw [Schema.declarations, Schema.declarations, agree.schemas elsewhere]

-- The marks on the models depend on the imports alone, and not on the order of the controllers.
theorem Document.AgreeBut.sameUpTo {part : String} {same : Controller → Controller → Prop}
    (agree : AgreeBut part one other)
    (elsewhere : part ∉ ["info", "openapi", "components", "definitions"])
    (imports : ∀ c d, same c d → ∀ model, model ∈ d.imports ↔ model ∈ c.imports)
    (controllers : Controllers.Matched same (Api.ofDocument rules one).controllers
      (Api.ofDocument rules other).controllers) :
    Api.SameUpTo same (Api.ofDocument rules one) (Api.ofDocument rules other) := by
  rw [List.mem_cons, not_or] at elsewhere
  have declarations : Schema.declarations rules other = Schema.declarations rules one :=
    agree.declarations elsewhere.2
  refine ⟨agree.info elsewhere.1, ?_, congrArg (·.enums) declarations, controllers⟩
  have marks : markExchanged (Api.ofDocument rules other).controllers =
      markExchanged (Api.ofDocument rules one).controllers := by
    funext m
    have named : ((Api.ofDocument rules other).controllers.any fun c => c.imports.contains m.name) =
        (Api.ofDocument rules one).controllers.any fun c => c.imports.contains m.name := by
      apply controllers.any
      intro c d related
      rw [Bool.eq_iff_iff, List.contains_iff_mem, List.contains_iff_mem]
      exact imports c d related m.name
    rw [markExchanged, markExchanged, named]
  show (Schema.declarations rules other).models.map
      (markExchanged (Api.ofDocument rules other).controllers) = _
  rw [marks, declarations]
  rfl

end ClientGen
