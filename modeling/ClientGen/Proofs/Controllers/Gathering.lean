import ClientGen.Controllers.Filing
import ClientGen.Proofs.FreshName
import Mathlib.Data.List.Basic

namespace ClientGen.Controllers

open Api

variable {rules : NameRules} {doc : Document} {controllers : List Controller} {c : Controller}
  {op : Operation} {ops : List Operation}

def names (controllers : List Controller) : List String := controllers.map (·.name)

def blank (name : String) : Controller :=
  { name, description := noDescription, methods := [], imports := [] }

-- No operation has been filed here yet.
def Untouched (c : Controller) : Prop := c.methods = [] ∧ c.imports = []

theorem ensure_eq (name : String) (controllers : List Controller) :
    ensure name controllers =
      if name ∈ names controllers then controllers else controllers ++ [blank name] := by
  by_cases known : name ∈ names controllers
  · obtain ⟨c, member, same⟩ := List.mem_map.mp known
    rw [if_pos known]
    exact if_pos (List.any_eq_true.mpr ⟨c, member, by simpa using same⟩)
  · rw [if_neg known]
    apply if_neg
    intro found
    obtain ⟨c, member, same⟩ := List.any_eq_true.mp found
    exact known (List.mem_map.mpr ⟨c, member, by simpa using same⟩)

theorem mem_ensure_iff {name : String} :
    c ∈ ensure name controllers ↔ c ∈ controllers ∨ (name ∉ names controllers ∧ c = blank name) := by
  rw [ensure_eq]
  by_cases known : name ∈ names controllers <;> simp [known]

theorem mem_names_ensure_iff {name other : String} :
    other ∈ names (ensure name controllers) ↔ other ∈ names controllers ∨ other = name := by
  rw [ensure_eq]
  by_cases known : name ∈ names controllers
  · rw [if_pos known]
    exact ⟨.inl, fun found => found.elim id fun same => same ▸ known⟩
  · rw [if_neg known]
    simp [names, blank]

theorem mem_names_ensure (name : String) (controllers : List Controller) :
    name ∈ names (ensure name controllers) := mem_names_ensure_iff.mpr (.inr rfl)

theorem names_ensure_subset (name : String) (controllers : List Controller) :
    names controllers ⊆ names (ensure name controllers) :=
  fun _ known => mem_names_ensure_iff.mpr (.inl known)

theorem nodup_ensure (name : String) (distinct : (names controllers).Nodup) :
    (names (ensure name controllers)).Nodup := by
  rw [ensure_eq]
  split
  · exact distinct
  · rename_i fresh
    have apart : ∀ a ∈ names controllers, a ≠ name := fun a member same => fresh (same ▸ member)
    simpa [names, blank, List.nodup_append, distinct] using ⟨distinct, by simpa [names] using apart⟩

theorem names_modify {name : String} {change : Controller → Controller}
    (keeps : ∀ c, (change c).name = c.name) (controllers : List Controller) :
    names (modify name change controllers) = names controllers := by
  simp only [names, modify, List.map_map]
  apply List.map_congr_left
  intro c _
  by_cases same : c.name = name <;> simp [same, keeps]

-- A controller that is opened later has another name, so the change does not reach it.
theorem ensure_modify {name other : String} {change : Controller → Controller}
    (keeps : ∀ c, (change c).name = c.name) (known : name ∈ names controllers) :
    ensure other (modify name change controllers) = modify name change (ensure other controllers) := by
  rw [ensure_eq, ensure_eq, names_modify keeps]
  by_cases found : other ∈ names controllers
  · rw [if_pos found, if_pos found]
  · have different : (blank other).name ≠ name := by
      rintro rfl
      exact found known
    rw [if_neg found, if_neg found]
    simp [modify, different]

def opened (rules : NameRules) (controllers : List Controller) (ops : List Operation) :
    List Controller :=
  ops.foldl (fun cs op => ensure (rules.controller op.tag) cs) controllers

theorem mem_opened : c ∈ opened rules controllers ops ↔ c ∈ controllers ∨
    (c.name ∉ names controllers ∧ ∃ op ∈ ops, c = blank (rules.controller op.tag)) := by
  induction ops generalizing controllers with
  | nil => simp [opened]
  | cons op rest ih =>
    have step : c ∈ opened rules controllers (op :: rest) ↔
        c ∈ opened rules (ensure (rules.controller op.tag) controllers) rest := Iff.rfl
    rw [step, ih, mem_ensure_iff, mem_names_ensure_iff, not_or]
    constructor
    · rintro ((old | ⟨new, rfl⟩) | ⟨⟨new, _⟩, later, within, rfl⟩)
      · exact .inl old
      · exact .inr ⟨new, op, List.mem_cons_self, rfl⟩
      · exact .inr ⟨new, later, List.mem_cons_of_mem _ within, rfl⟩
    · rintro (old | ⟨new, later, within, rfl⟩)
      · exact .inl (.inl old)
      · by_cases head : rules.controller later.tag = rules.controller op.tag
        · exact .inl (.inr ⟨head ▸ new, congrArg blank head⟩)
        · rcases List.mem_cons.mp within with rfl | tail
          · exact absurd rfl head
          · exact .inr ⟨⟨new, head⟩, later, tail, rfl⟩

theorem opened_modify {name : String} {change : Controller → Controller}
    (keeps : ∀ c, (change c).name = c.name) (known : name ∈ names controllers) :
    opened rules (modify name change controllers) ops =
      modify name change (opened rules controllers ops) := by
  induction ops generalizing controllers with
  | nil => rfl
  | cons op rest ih =>
    have still : name ∈ names (ensure (rules.controller op.tag) controllers) :=
      names_ensure_subset _ _ known
    simp only [opened, List.foldl_cons] at ih ⊢
    rw [ensure_modify keeps known]
    exact ih still

theorem names_opened_subset (controllers : List Controller) (ops : List Operation) :
    names controllers ⊆ names (opened rules controllers ops) := by
  induction ops generalizing controllers with
  | nil => exact List.Subset.refl _
  | cons op rest ih => exact List.Subset.trans (names_ensure_subset _ _) (ih _)

theorem tag_mem_opened (member : op ∈ ops) :
    rules.controller op.tag ∈ names (opened rules controllers ops) := by
  induction ops generalizing controllers with
  | nil => cases member
  | cons head rest ih =>
    rcases List.mem_cons.mp member with rfl | later
    · exact names_opened_subset _ rest (mem_names_ensure _ _)
    · exact ih later

def collect (rules : NameRules) (doc : Document) (ops : List Operation) (c : Controller) : Controller :=
  ops.foldl (fun c op => addMethod rules doc op c) c

def gather (rules : NameRules) (doc : Document) (ops : List Operation) (c : Controller) : Controller :=
  collect rules doc (ops.filter fun op => rules.controller op.tag == c.name) c

theorem gather_cons (op : Operation) (rest : List Operation) (c : Controller) :
    gather rules doc (op :: rest) c = gather rules doc rest
      (if c.name = rules.controller op.tag then addMethod rules doc op c else c) := by
  by_cases same : c.name = rules.controller op.tag
  · rw [if_pos same, gather, List.filter_cons, if_pos (by simp [same])]
    rfl
  · have different : ¬rules.controller op.tag = c.name := fun equal => same equal.symm
    rw [if_neg same, gather, List.filter_cons, if_neg (by simp [different])]
    rfl

theorem addMethod_name (op : Operation) (c : Controller) :
    (addMethod rules doc op c).name = c.name := rfl

theorem filing_eq (controllers : List Controller) (ops : List Operation) :
    ops.foldl (file rules doc) controllers =
      (opened rules controllers ops).map (gather rules doc ops) := by
  induction ops generalizing controllers with
  | nil => exact (List.map_id _).symm
  | cons op rest ih =>
    let name := rules.controller op.tag
    calc (op :: rest).foldl (file rules doc) controllers
      _ = (opened rules (modify name (addMethod rules doc op) (ensure name controllers)) rest).map
            (gather rules doc rest) := ih _
      _ = (modify name (addMethod rules doc op) (opened rules controllers (op :: rest))).map
            (gather rules doc rest) := by
          rw [opened_modify (addMethod_name op) (mem_names_ensure _ _)]
          rfl
      _ = (opened rules controllers (op :: rest)).map (gather rules doc (op :: rest)) := by
          rw [modify, List.map_map]
          apply List.map_congr_left
          intro c _
          exact (gather_cons op rest c).symm

theorem collect_name (ops : List Operation) (c : Controller) :
    (collect rules doc ops c).name = c.name := by
  induction ops generalizing c with
  | nil => rfl
  | cons op rest ih => exact ih _

theorem gather_name (ops : List Operation) (c : Controller) :
    (gather rules doc ops c).name = c.name := collect_name _ _

theorem methods_collect {α : Type} {ofMethod : Method → α} {ofOperation : Operation → α}
    (agree : ∀ op name, ofMethod (op.method rules doc name) = ofOperation op)
    (ops : List Operation) (c : Controller) :
    (collect rules doc ops c).methods.map ofMethod = c.methods.map ofMethod ++ ops.map ofOperation := by
  induction ops generalizing c with
  | nil => simp [collect]
  | cons op rest ih =>
    have later := ih (addMethod rules doc op c)
    simp only [collect, List.foldl_cons] at later ⊢
    rw [later]
    simp [addMethod, agree]

theorem mem_collect {m : Method} (member : m ∈ (collect rules doc ops c).methods) :
    m ∈ c.methods ∨ ∃ op ∈ ops, ∃ taken,
      m = op.method rules doc (freshName (rules.method op.url) taken) := by
  induction ops generalizing c with
  | nil => exact .inl member
  | cons op rest ih =>
    rcases ih member with before | ⟨later, within, found⟩
    · rcases List.mem_append.mp before with old | new
      · exact .inl old
      · exact .inr ⟨op, List.mem_cons_self, _, List.mem_singleton.mp new⟩
    · exact .inr ⟨later, List.mem_cons_of_mem _ within, found⟩

theorem nodup_addMethod (distinct : (c.methods.map (·.name)).Nodup) :
    ((addMethod rules doc op c).methods.map (·.name)).Nodup := by
  have fresh := freshName_not_mem (rules.method op.url) (c.methods.map (·.name))
  simp only [addMethod, List.map_append, List.map_cons, List.map_nil, Operation.method]
  refine List.nodup_append.mpr ⟨distinct, by simp, ?_⟩
  intro old member new single same
  rw [List.mem_singleton.mp single] at same
  exact fresh (same ▸ member)

theorem nodup_collect (distinct : (c.methods.map (·.name)).Nodup) :
    ((collect rules doc ops c).methods.map (·.name)).Nodup := by
  induction ops generalizing c with
  | nil => exact distinct
  | cons op rest ih => exact ih (nodup_addMethod distinct)

-- The controllers before the first operation: one for each name, all empty.
structure Ready (controllers : List Controller) : Prop where
  distinct : (names controllers).Nodup
  untouched : ∀ c ∈ controllers, Untouched c

theorem ready_nil : Ready [] := ⟨List.nodup_nil, fun _ member => nomatch member⟩

theorem ready_ensure (name : String) (ready : Ready controllers) :
    Ready (ensure name controllers) := by
  refine ⟨nodup_ensure _ ready.distinct, ?_⟩
  intro c member
  rcases mem_ensure_iff.mp member with old | ⟨_, rfl⟩
  · exact ready.untouched c old
  · exact ⟨rfl, rfl⟩

theorem ready_modify {name : String} {change : Controller → Controller}
    (keeps : ∀ c, (change c).name = c.name) (frame : ∀ c, Untouched c → Untouched (change c))
    (ready : Ready controllers) : Ready (modify name change controllers) := by
  refine ⟨names_modify keeps controllers ▸ ready.distinct, ?_⟩
  intro c member
  obtain ⟨old, within, rfl⟩ := List.mem_map.mp member
  have empty := ready.untouched old within
  split
  · exact frame old empty
  · exact empty

theorem ready_declare (tag : Document.Tag) (ready : Ready controllers) :
    Ready (declare rules controllers tag) := by
  have opened := ready_ensure (rules.controller tag.name) ready
  unfold declare
  split
  · exact opened
  · exact ready_modify (fun _ => rfl) (fun _ empty => empty) opened

theorem ready_declared (rules : NameRules) (doc : Document) : Ready (declared rules doc) := by
  have run : ∀ (tags : List Document.Tag) (controllers : List Controller), Ready controllers →
      Ready (tags.foldl (declare rules) controllers) := by
    intro tags
    induction tags with
    | nil => exact fun _ ready => ready
    | cons tag rest ih => exact fun _ ready => ih _ (ready_declare tag ready)
  exact run doc.tags [] ready_nil

theorem ready_opened (ops : List Operation) (ready : Ready controllers) :
    Ready (opened rules controllers ops) := by
  induction ops generalizing controllers with
  | nil => exact ready
  | cons op rest ih => exact ih (ready_ensure _ ready)

def started (rules : NameRules) (doc : Document) : List Controller :=
  opened rules (declared rules doc) doc.operations

theorem ready_started (rules : NameRules) (doc : Document) : Ready (started rules doc) :=
  ready_opened _ (ready_declared rules doc)

theorem ofDocument_eq (rules : NameRules) (doc : Document) :
    ofDocument rules doc = (started rules doc).map (gather rules doc doc.operations) :=
  filing_eq _ _

theorem names_ofDocument (rules : NameRules) (doc : Document) :
    names (ofDocument rules doc) = names (started rules doc) := by
  rw [ofDocument_eq, names, names, List.map_map]
  exact List.map_congr_left fun c _ => gather_name _ c

theorem mem_ofDocument (member : c ∈ ofDocument rules doc) :
    ∃ start, Untouched start ∧ c = gather rules doc doc.operations start := by
  rw [ofDocument_eq] at member
  obtain ⟨start, within, rfl⟩ := List.mem_map.mp member
  exact ⟨start, (ready_started rules doc).untouched start within, rfl⟩

theorem mem_methods_ofDocument {m : Method} (member : c ∈ ofDocument rules doc)
    (within : m ∈ c.methods) : ∃ op ∈ doc.operations, rules.controller op.tag = c.name ∧
      ∃ taken, m = op.method rules doc (freshName (rules.method op.url) taken) := by
  obtain ⟨start, untouched, rfl⟩ := mem_ofDocument member
  rcases mem_collect within with old | ⟨op, chosen, taken, same⟩
  · rw [untouched.1] at old
    cases old
  · obtain ⟨declared, ofName⟩ := List.mem_filter.mp chosen
    refine ⟨op, declared, ?_, taken, same⟩
    rw [gather_name]
    exact beq_iff_eq.mp ofName

-- Where no two groups share a key and each item has the key of some group, the groups hold all items.
theorem groups_perm {α β : Type} [BEq β] [LawfulBEq β] {key : α → β} {keys : List β} {items : List α}
    (distinct : keys.Nodup) (covered : ∀ x ∈ items, key x ∈ keys) :
    (keys.flatMap fun k => items.filter fun x => key x == k).Perm items := by
  induction keys generalizing items with
  | nil =>
    cases items with
    | nil => exact .nil
    | cons x _ => exact nomatch covered x List.mem_cons_self
  | cons k rest ih =>
    obtain ⟨absent, tail⟩ := List.nodup_cons.mp distinct
    let others := items.filter fun x => !(key x == k)
    -- The first group takes nothing from the later ones, whose keys are not its own.
    have same : (rest.flatMap fun j => items.filter fun x => key x == j) =
        rest.flatMap fun j => others.filter fun x => key x == j := by
      apply List.flatMap_congr
      intro j member
      rw [List.filter_filter]
      apply List.filter_congr
      intro x _
      have apart : j ≠ k := fun equal => absent (equal ▸ member)
      by_cases hit : key x = j <;> simp [hit, apart]
    have remaining : ∀ x ∈ others, key x ∈ rest := by
      intro x member
      obtain ⟨within, other⟩ := List.mem_filter.mp member
      rcases List.mem_cons.mp (covered x within) with equal | later
      · simp [equal] at other
      · exact later
    rw [List.flatMap_cons, same]
    exact ((ih tail remaining).append_left _).trans (List.filter_append_perm _ items)

theorem methods_perm {α : Type} {ofMethod : Method → α} (ofOperation : Operation → α)
    (agree : ∀ op name, ofMethod (op.method rules doc name) = ofOperation op) :
    (((ofDocument rules doc).flatMap (·.methods)).map ofMethod).Perm
      (doc.operations.map ofOperation) := by
  have ready := ready_started rules doc
  have each : ∀ c ∈ started rules doc, (gather rules doc doc.operations c).methods.map ofMethod =
      (doc.operations.filter fun op => rules.controller op.tag == c.name).map ofOperation := by
    intro c member
    rw [gather, methods_collect agree, (ready.untouched c member).1]
    rfl
  have groups : ((ofDocument rules doc).flatMap (·.methods)).map ofMethod =
      ((names (started rules doc)).flatMap fun name =>
        doc.operations.filter fun op => rules.controller op.tag == name).map ofOperation := by
    rw [ofDocument_eq, names, List.map_flatMap, List.map_flatMap, List.flatMap_map, List.flatMap_map]
    exact List.flatMap_congr each
  rw [groups]
  exact (groups_perm ready.distinct fun op member => tag_mem_opened member).map _

end ClientGen.Controllers
