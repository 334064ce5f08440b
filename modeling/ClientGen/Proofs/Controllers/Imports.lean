import ClientGen.Proofs.Controllers.Parameters
import Mathlib.Data.List.Induction
import Mathlib.Data.List.Nodup

namespace ClientGen

open Api

variable {rules : NameRules} {doc : Document}

theorem eraseDups_snoc (names : List String) (name : String) :
    (names ++ [name]).eraseDups =
      if name ∈ names then names.eraseDups else names.eraseDups ++ [name] := by
  rw [List.eraseDups_append, List.removeAll, List.filter_singleton]
  have single : [name].eraseDups = [name] := rfl
  by_cases known : name ∈ names <;> simp [known, single]

theorem nodup_eraseDups (names : List String) : names.eraseDups.Nodup := by
  induction names using List.reverseRecOn with
  | nil => exact List.nodup_nil
  | append_singleton names name ih =>
    rw [eraseDups_snoc]
    split
    · exact ih
    · rename_i fresh
      have apart : ∀ earlier ∈ names.eraseDups, earlier ≠ name := by
        rintro earlier member rfl
        exact fresh (List.mem_eraseDups.mp member)
      exact List.nodup_append.mpr ⟨ih, List.nodup_singleton name, by simpa using apart⟩

theorem eraseDups_perm {these those : List String} (perm : these.Perm those) :
    these.eraseDups.Perm those.eraseDups := by
  refine (List.perm_ext_iff_of_nodup (nodup_eraseDups _) (nodup_eraseDups _)).mpr ?_
  intro name
  rw [List.mem_eraseDups, List.mem_eraseDups, perm.mem_iff]

namespace Controllers

variable {c : Controller} {op : Operation} {ops : List Operation}

theorem addImports_eraseDups (before names : List String) :
    addImports before.eraseDups names = (before ++ names).eraseDups := by
  induction names generalizing before with
  | nil => rw [List.append_nil]; rfl
  | cons name rest ih =>
    have step : (if name ∈ before.eraseDups then before.eraseDups else before.eraseDups ++ [name]) =
        (before ++ [name]).eraseDups := by
      simp only [eraseDups_snoc, List.mem_eraseDups]
    calc addImports before.eraseDups (name :: rest)
      _ = addImports (before ++ [name]).eraseDups rest := by rw [← step]; rfl
      _ = (before ++ [name] ++ rest).eraseDups := ih _
      _ = (before ++ name :: rest).eraseDups := by rw [List.append_assoc, List.singleton_append]

def Linked (c : Controller) : Prop := c.imports = (c.methods.flatMap (·.references)).eraseDups

theorem linked_addMethod (op : Operation) (linked : Linked c) : Linked (addMethod rules doc op c) := by
  unfold Linked at linked ⊢
  simp only [addMethod, linked, addImports_eraseDups, List.flatMap_append, List.flatMap_cons,
    List.flatMap_nil, List.append_nil]

theorem linked_collect (ops : List Operation) (linked : Linked c) : Linked (collect rules doc ops c) := by
  induction ops generalizing c with
  | nil => exact linked
  | cons op rest ih => exact ih (linked_addMethod op linked)

theorem linked_ofDocument (member : c ∈ ofDocument rules doc) : Linked c := by
  obtain ⟨start, untouched, rfl⟩ := mem_ofDocument member
  apply linked_collect
  unfold Linked
  rw [untouched.1, untouched.2]
  rfl

end Controllers

namespace Api.Method

def mentions (m : Method) : List String :=
  (m.body ++ m.path ++ m.query ++ m.formData ++ m.header).filterMap (·.type.model) ++
    m.response.model.toList

theorem references_eq (m : Method) : m.references = m.mentions := by
  unfold references types mentions
  rw [List.filterMap_append, List.filterMap_map]
  cases response : m.response.model <;> simp [response]

theorem mem_placed (m : Method) (p : Parameter) :
    p ∈ m.body ++ m.path ++ m.query ++ m.formData ++ m.header ↔ ∃ location, p ∈ m.at location := by
  simp only [List.mem_append]
  constructor
  · rintro ((((body | path) | query) | formData) | header)
    exacts [⟨.body, body⟩, ⟨.path, path⟩, ⟨.query, query⟩, ⟨.formData, formData⟩, ⟨.header, header⟩]
  · rintro ⟨location, member⟩
    cases location <;> simp_all [Method.at]

-- Some parameter of the method, header or not, or its response is of this model.
def Uses (m : Method) (model : String) : Prop :=
  (∃ p, (p ∈ m.parameters ∨ p ∈ m.header) ∧ p.type.model = some model) ∨ m.response.model = some model

end Api.Method

namespace Operation

theorem mem_at (op : Operation) (name : String) (location : Location) (p : Parameter) :
    p ∈ (op.method rules doc name).at location ↔
      p ∈ operationParameters rules doc op ∧ p.location = location := by
  cases location <;> simp [Operation.method, Method.at, located]

theorem mem_parameters (op : Operation) (name : String) (p : Parameter) :
    p ∈ (op.method rules doc name).parameters ↔
      p ∈ operationParameters rules doc op ∧ p.location ≠ .header := by
  simp only [Operation.method, optionalLast, List.mem_append, List.mem_filter, bne_iff_ne]
  cases p.required <;> simp

theorem mem_mentions (op : Operation) (name model : String) :
    model ∈ (op.method rules doc name).mentions ↔ (op.method rules doc name).Uses model := by
  let m := op.method rules doc name
  have sorted : ∀ p, p ∈ m.body ++ m.path ++ m.query ++ m.formData ++ m.header ↔
      p ∈ m.parameters ∨ p ∈ m.header := by
    intro p
    have header : p ∈ m.header ↔ p ∈ operationParameters rules doc op ∧ p.location = .header :=
      op.mem_at name .header p
    rw [m.mem_placed, op.mem_parameters name p, header]
    simp only [op.mem_at name, m]
    by_cases place : p.location = .header <;> simp [place]
  rw [Method.mentions, Method.Uses, List.mem_append, List.mem_filterMap, Option.mem_toList]
  exact or_congr (exists_congr fun p => and_congr_left' (sorted p)) Iff.rfl

end Operation

namespace Controllers

variable {c : Controller}

theorem mem_imports_finished (member : c ∈ (Api.ofDocument rules doc).controllers) (model : String) :
    model ∈ c.imports ↔ ∃ m ∈ c.methods, m.Uses model := by
  obtain ⟨d, built, _, rfl⟩ := mem_arrange.mp member
  have linked : d.imports = (d.methods.flatMap (·.references)).eraseDups := linked_ofDocument built
  have each : ∀ m ∈ d.methods, model ∈ m.references ↔ m.Uses model := by
    intro m within
    obtain ⟨op, _, _, taken, rfl⟩ := mem_methods_ofDocument built within
    rw [Method.references_eq]
    exact op.mem_mentions _ model
  simp only [linked, List.mem_eraseDups, List.mem_flatMap, (sortMethods_perm d.methods).mem_iff]
  exact exists_congr fun m => and_congr_right (each m)

theorem imports_linked (rules : NameRules) (doc : Document) :
    (∀ c ∈ ofDocument rules doc,
      c.imports.Nodup ∧ c.imports = (c.methods.flatMap (·.mentions)).eraseDups) ∧
    (∀ c ∈ (Api.ofDocument rules doc).controllers, ∀ model,
      model ∈ c.imports ↔ ∃ m ∈ c.methods, m.Uses model) ∧
    ∀ model ∈ (Api.ofDocument rules doc).models, model.isExchanged = true ↔
      ∃ c ∈ (Api.ofDocument rules doc).controllers, ∃ m ∈ c.methods, m.Uses model.name := by
  refine ⟨?_, fun c member model => mem_imports_finished member model, ?_⟩
  · intro c member
    have linked : c.imports = (c.methods.flatMap (·.references)).eraseDups := linked_ofDocument member
    refine ⟨linked ▸ nodup_eraseDups _, ?_⟩
    simpa only [Method.references_eq] using linked
  · intro model member
    obtain ⟨declared, _, rfl⟩ := List.mem_map.mp member
    simp only [markExchanged, List.any_eq_true, List.contains_iff_mem]
    exact exists_congr fun c => and_congr_right fun within => mem_imports_finished within _

-- The body, the header and the response of the first operation name three models in an order other than
-- that of the document; the second operation comes first in the finished controller.
def exchange : Document :=
  { root := .obj [
      ("definitions", .obj [("Order", .obj []), ("Note", .obj [])]),
      ("paths", .obj [
        ("/orders", .obj [("post", .obj [
          ("parameters", .arr [
            .obj [("name", .str "trace"), ("in", .str "header"),
              ("schema", .obj [("$ref", .str "#/definitions/Trace")])],
            .obj [("name", .str "order"), ("in", .str "body"),
              ("schema", .obj [("$ref", .str "#/definitions/Order")])]]),
          ("responses", .obj [("200", .obj [("schema", .obj [("type", .str "array"),
            ("items", .obj [("$ref", .str "#/definitions/Receipt")])])])])])]),
        ("/tail", .obj [("get", .obj [("responses", .obj [("200", .obj [("schema",
          .obj [("$ref", .str "#/definitions/Order")])])])])])])] }

theorem imports_linked_exchange :
    let rules : NameRules := ⟨id, id, id⟩
    (∃ c ∈ ofDocument rules exchange, c.imports = ["Order", "Trace", "Receipt"] ∧ c.imports.Nodup ∧
      c.imports = (c.methods.flatMap (·.mentions)).eraseDups) ∧
    (∃ c ∈ (Api.ofDocument rules exchange).controllers, ∃ m ∈ c.methods, m.Uses "Receipt") ∧
    ∃ model ∈ (Api.ofDocument rules exchange).models, model.name = "Note" ∧
      ¬∃ c ∈ (Api.ofDocument rules exchange).controllers, ∃ m ∈ c.methods, m.Uses model.name := by
  intro rules
  obtain ⟨built, finished, marked⟩ := imports_linked rules exchange
  have lists : (ofDocument rules exchange).map (·.imports) = [["Order", "Trace", "Receipt"]] := by
    decide +kernel
  have finishedLists : (Api.ofDocument rules exchange).controllers.map (·.imports) =
      [["Order", "Trace", "Receipt"]] := by decide +kernel
  have models : (Api.ofDocument rules exchange).models.map (fun m => (m.name, m.isExchanged)) =
      [("Order", true), ("Note", false)] := by decide +kernel
  obtain ⟨c, member, list⟩ := List.mem_map.mp (lists ▸ List.mem_singleton_self _)
  obtain ⟨d, within, finishedList⟩ := List.mem_map.mp (finishedLists ▸ List.mem_singleton_self _)
  have note : ("Note", false) ∈ (Api.ofDocument rules exchange).models.map fun m =>
      (m.name, m.isExchanged) := by simp [models]
  obtain ⟨model, declared, same⟩ := List.mem_map.mp note
  obtain ⟨name, unmarked⟩ := Prod.mk.inj same
  refine ⟨⟨c, member, list, built c member⟩, ⟨d, within, ?_⟩, model, declared, name, ?_⟩
  · exact (finished d within "Receipt").mp (by simp [finishedList])
  · intro used
    have exchanged := (marked model declared).mpr used
    rw [unmarked] at exchanged
    cases exchanged

end Controllers

end ClientGen
