import ClientGen.Proofs.Controllers.Identifiers
import ClientGen.Proofs.Controllers.Imports
import ClientGen.Proofs.Text.CamelCase

namespace ClientGen

open Api

-- The names of some items are their raw names, each numbered by the items before it with the same raw name.
def Numbered {α : Type} (raw chosen : α → String) (items : List α) : Prop :=
  ∀ before item after, items = before ++ item :: after →
    chosen item = occurrence (raw item) (before.countP fun other => raw other = raw item)

section Spelling

variable {first second : String} {i j : Nat}

def stem (cs : List Char) : List Char := cs.takeWhile (· != '_')

theorem stem_plain {cs : List Char} (plain : '_' ∉ cs) (rest : List Char) : stem (cs ++ '_' :: rest) = cs := by
  have front : ∀ c ∈ cs, (c != '_') = true := by
    intro c member
    rw [bne_iff_ne]
    rintro rfl
    exact plain member
  rw [stem, List.takeWhile_append_of_pos front]
  simp

theorem toList_numberedName (name : String) (k : Nat) :
    (numberedName name k).toList = name.toList ++ '_' :: (toString k).toList := by
  simp [numberedName, String.toList_append]

theorem plain_ne_numbered (plain : '_' ∉ first.toList) : first ≠ numberedName second j := by
  rintro rfl
  rw [toList_numberedName] at plain
  exact plain (List.mem_append_right _ List.mem_cons_self)

theorem numberedName_inj (plainFirst : '_' ∉ first.toList) (plainSecond : '_' ∉ second.toList)
    (same : numberedName first i = numberedName second j) : first = second ∧ i = j := by
  have stems := congrArg (stem ∘ String.toList) same
  simp only [Function.comp_apply, toList_numberedName, stem_plain plainFirst, stem_plain plainSecond] at stems
  have names := String.toList_inj.mp stems
  subst names
  exact ⟨rfl, numberedName_injective same⟩

theorem occurrence_inj (plainFirst : '_' ∉ first.toList) (plainSecond : '_' ∉ second.toList)
    (same : occurrence first i = occurrence second j) : first = second ∧ i = j := by
  cases i with
  | zero =>
    cases j with
    | zero => exact ⟨same, rfl⟩
    | succ j => exact absurd same (plain_ne_numbered plainFirst)
  | succ i =>
    cases j with
    | zero => exact absurd same.symm (plain_ne_numbered plainSecond)
    | succ j => exact numberedName_inj plainFirst plainSecond same

end Spelling

section Choosing

variable {α : Type} {raw chosen : α → String} {items rest : List α} {item : α} {name : String} {k : Nat}

theorem numbered_nil : Numbered raw chosen [] := by
  intro before item after none
  exact absurd none.symm (List.append_ne_nil_of_right_ne_nil before (List.cons_ne_nil item after))

theorem Numbered.of_append (numbered : Numbered raw chosen (items ++ rest)) : Numbered raw chosen items := by
  intro before item after parts
  refine numbered before item (after ++ rest) ?_
  rw [parts, List.append_assoc, List.cons_append]

theorem Numbered.snoc (numbered : Numbered raw chosen items)
    (last : chosen item = occurrence (raw item) (items.countP fun other => raw other = raw item)) :
    Numbered raw chosen (items ++ [item]) := by
  intro before other after parts
  cases after using List.reverseRecOn with
  | nil =>
    obtain ⟨rfl, same⟩ := List.append_inj' parts rfl
    cases same
    exact last
  | append_singleton upper final =>
    rw [← List.cons_append, ← List.append_assoc] at parts
    exact numbered before other upper (List.append_inj' parts rfl).1

-- The numbers that are taken for a name are those below the count of its raw occurrences.
theorem Numbered.mem_iff (numbered : Numbered raw chosen items) (plain : ∀ item ∈ items, '_' ∉ (raw item).toList)
    (plainName : '_' ∉ name.toList) :
    occurrence name k ∈ items.map chosen ↔ k < items.countP fun other => raw other = name := by
  induction items using List.reverseRecOn with
  | nil => simp
  | append_singleton items item ih =>
    have last := numbered items item [] rfl
    rw [List.forall_mem_append, List.forall_mem_singleton] at plain
    rw [List.map_append, List.mem_append, ih numbered.of_append plain.1, List.map_singleton, List.mem_singleton,
      last, List.countP_append, List.countP_singleton]
    by_cases same : raw item = name
    · subst same
      have number : occurrence (raw item) k =
          occurrence (raw item) (items.countP fun other => raw other = raw item) ↔
          k = items.countP fun other => raw other = raw item :=
        ⟨fun equal => (occurrence_inj plainName plainName equal).2, fun equal => congrArg _ equal⟩
      rw [number]
      simp only [decide_true, if_true]
      omega
    · have apart : occurrence name k ≠
          occurrence (raw item) (items.countP fun other => raw other = raw item) :=
        fun equal => same (occurrence_inj plainName plain.2 equal).1.symm
      simp [same, apart]

theorem Numbered.freshName (numbered : Numbered raw chosen items)
    (plain : ∀ item ∈ items, '_' ∉ (raw item).toList) (plainName : '_' ∉ name.toList) :
    freshName name (items.map chosen) = occurrence name (items.countP fun other => raw other = name) := by
  have taken := fun k => numbered.mem_iff (k := k) plain plainName
  by_cases used : name ∈ items.map chosen
  · obtain ⟨k, positive, _, same, free, below⟩ := freshName_of_taken used
    have count := (taken 0).mp used
    have enough : ¬ k < items.countP fun other => raw other = name := by
      rw [← taken k, occurrence_of_pos name positive]
      exact free
    have least : ¬ (items.countP fun other => raw other = name) < k := by
      intro smaller
      have member := below _ count smaller
      rw [← occurrence_of_pos name count, taken] at member
      exact Nat.lt_irrefl _ member
    have number : k = items.countP fun other => raw other = name :=
      Nat.le_antisymm (Nat.not_lt.mp least) (Nat.not_lt.mp enough)
    rw [same, ← occurrence_of_pos name positive, number]
  · have none : ¬ 0 < items.countP fun other => raw other = name := fun some => used ((taken 0).mpr some)
    rw [freshName_of_free used, Nat.eq_zero_of_not_pos none]
    rfl

end Choosing

section Raw

theorem plain_camelCase (s : String) : '_' ∉ (Text.camelCase s).toList :=
  fun member => absurd (Text.wordlike_camelCase s '_' member rfl) (by decide)

theorem plain_ofPath (path : String) : '_' ∉ (NameRules.ofPath path).toList :=
  plain_camelCase (Text.lastSegment path)

theorem plain_identifierOf (name : String) : '_' ∉ (identifierOf name).toList := by
  unfold identifierOf
  split <;> exact plain_camelCase _

end Raw

section Parameters

variable {rules : NameRules} {doc : Document}

-- Induction on the objects still to come. The parameters before them carry the invariant.
theorem numbered_parametersFrom {earlier : List Parameter} (fragments : List Json)
    (numbered : Numbered (fun p : Parameter => identifierOf p.name) (·.identifier) earlier) :
    Numbered (fun p : Parameter => identifierOf p.name) (·.identifier)
      (earlier ++ parametersFrom rules (earlier.map (·.identifier)) fragments) := by
  induction fragments generalizing earlier with
  | nil => rwa [parametersFrom, List.append_nil]
  | cons fragment rest ih =>
    unfold parametersFrom
    split
    · exact ih numbered
    · rename_i location _
      let p := Parameter.ofJson rules (earlier.map (·.identifier)) location fragment
      have next : Numbered (fun p : Parameter => identifierOf p.name) (·.identifier) (earlier ++ [p]) :=
        numbered.snoc (numbered.freshName (fun q _ => plain_identifierOf q.name) (plain_identifierOf p.name))
      have later := ih next
      rwa [List.map_append, List.map_singleton, List.append_assoc, List.singleton_append] at later

theorem numbered_parameters (rules : NameRules) (doc : Document) (op : Operation) :
    Numbered (fun p : Parameter => identifierOf p.name) (·.identifier) (operationParameters rules doc op) :=
  numbered_parametersFrom (parameterObjects doc op) numbered_nil

-- The parameters of a method have different identifiers, whatever their location. In the order of the objects
-- that they stand for, each has its raw identifier numbered by those before it.
structure Identified (rules : NameRules) (fragments : List Json) (m : Method) : Prop where
  distinct : ((Location.all.flatMap m.at).map (·.identifier)).Nodup
  numbered : ∃ parameters, List.Forall₂ (StandsFor rules) fragments parameters ∧
    (∀ location, m.at location = parameters.filter (·.location = location)) ∧
    Numbered (fun p : Parameter => identifierOf p.name) (·.identifier) parameters

theorem perm_locations (op : Operation) (name : String) :
    (Location.all.flatMap (op.method rules doc name).at).Perm (operationParameters rules doc op) := by
  have lists : (op.method rules doc name).at = fun location =>
      (operationParameters rules doc op).filter fun p => p.location == location := by
    funext location
    cases location <;> rfl
  rw [lists]
  refine Controllers.groups_perm (by decide) fun p _ => ?_
  cases p.location <;> decide

theorem method_identified (pathItem : Fields) (url : String) (verb : Verb) (body : Json) (name : String) :
    Identified rules (accounted doc pathItem body) ((operationAt pathItem url verb body).method rules doc name) where
  distinct := ((perm_locations _ name).map _).nodup_iff.mpr (nodup_identifiers [] _)
  numbered := by
    refine ⟨operationParameters rules doc (operationAt pathItem url verb body), ?_, ?_, numbered_parameters _ _ _⟩
    · rw [accounted_eq doc pathItem url verb body]
      exact parametersFrom_each [] _
    · intro location
      cases location <;> rfl

end Parameters

section Methods

open Controllers

variable {rules : NameRules} {doc : Document} {c : Controller}

theorem numbered_collect (plain : ∀ url, '_' ∉ (rules.method url).toList) (ops : List Operation)
    (numbered : Numbered (fun m : Method => rules.method m.url) (·.name) c.methods) :
    Numbered (fun m : Method => rules.method m.url) (·.name) (collect rules doc ops c).methods := by
  induction ops generalizing c with
  | nil => exact numbered
  | cons op rest ih =>
    refine ih (numbered.snoc ?_)
    exact numbered.freshName (fun m _ => plain m.url) (plain op.url)

theorem numbered_methods (rules : NameRules) (plain : ∀ url, '_' ∉ (rules.method url).toList)
    (member : c ∈ Controllers.ofDocument rules doc) :
    Numbered (fun m : Method => rules.method m.url) (·.name) c.methods := by
  obtain ⟨start, untouched, rfl⟩ := mem_ofDocument member
  apply numbered_collect plain
  rw [untouched.1]
  exact numbered_nil

end Methods

theorem numbered_by_occurrence (rules : NameRules) (doc : Document) :
    (∀ (pathItem : Fields) (url : String) (verb : Verb) (body : Json) (name : String),
      Identified rules (accounted doc pathItem body)
        ((operationAt pathItem url verb body).method rules doc name)) ∧
    (∀ c ∈ Controllers.ofDocument rules doc, ∀ m ∈ c.methods, ∃ paths item pathItem body,
      doc.paths = some paths ∧ (m.url, item) ∈ paths ∧ doc.target? item = some (.obj pathItem) ∧
      (m.verb.name, body) ∈ pathItem ∧ Identified rules (accounted doc pathItem body) m) ∧
    ∀ c ∈ Controllers.ofDocument { rules with method := NameRules.ofPath } doc,
      Numbered (fun m : Method => NameRules.ofPath m.url) (·.name) c.methods := by
  refine ⟨method_identified, ?_, fun c member =>
    numbered_methods { rules with method := NameRules.ofPath } plain_ofPath member⟩
  intro c member m within
  obtain ⟨op, declared, _, taken, rfl⟩ := Controllers.mem_methods_ofDocument member within
  obtain ⟨paths, item, pathItem, found, entry, target, field, same⟩ := operationAt_of_mem declared
  refine ⟨paths, item, pathItem, op.body, found, entry, target, field, ?_⟩
  rw [same]
  exact method_identified pathItem op.url op.verb op.body _

-- Three of the parameters have the same raw identifier, one of them as a header, and two have an empty one. The
-- names of the methods meet as well, in two paths and in one.
def queue : Document :=
  { root := .obj [("paths", .obj [
      ("/a/item", .obj [("get", .obj [("parameters", .arr [parameterObject "page_size" "query",
        parameterObject "pageSize" "header", parameterObject "-" "query", parameterObject "page size" "query",
        parameterObject "_" "path", parameterObject "number" "query"])])]),
      ("/b/item", .obj [("get", .obj []), ("post", .obj [])])])] }

def chosenNames (m : Method) : String × List String := (m.name, (Location.all.flatMap m.at).map (·.identifier))

theorem chosenNames_queue :
    ((Controllers.ofDocument .standard queue).flatMap (·.methods)).map chosenNames =
      [("item", ["pageSize", "", "pageSize_2", "num", "pageSize_1", "_1"]), ("item_1", []), ("item_2", [])] := by
  decide +kernel

theorem numbered_by_occurrence_queue :
    ∃ c ∈ Controllers.ofDocument .standard queue, ∃ m ∈ c.methods,
      chosenNames m = ("item", ["pageSize", "", "pageSize_2", "num", "pageSize_1", "_1"]) ∧
      (∃ paths item pathItem body, queue.paths = some paths ∧ (m.url, item) ∈ paths ∧
        queue.target? item = some (.obj pathItem) ∧ (m.verb.name, body) ∈ pathItem ∧
        Identified .standard (accounted queue pathItem body) m) ∧
      Numbered (fun m : Method => NameRules.ofPath m.url) (·.name) c.methods := by
  have first := List.mem_of_getElem? (congrArg (·[0]?) chosenNames_queue)
  obtain ⟨c, member, m, within, names⟩ := Controllers.exists_method first
  obtain ⟨_, identified, numbered⟩ := numbered_by_occurrence .standard queue
  exact ⟨c, member, m, within, names, identified c member m within, numbered c member⟩

end ClientGen
