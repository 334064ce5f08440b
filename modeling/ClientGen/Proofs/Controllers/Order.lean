import ClientGen.Api.OfDocument
import ClientGen.Proofs.Controllers.Gathering
import ClientGen.Proofs.Text.ByteOrder
import Mathlib.Data.List.Nodup

namespace ClientGen.Controllers

open Api

variable {controllers : List Controller} {c : Controller}

theorem sortMethods_perm (methods : List Method) : (sortMethods methods).Perm methods :=
  List.mergeSort_perm _ _

theorem descending_trans (a b d : Method) (ab : decide (b.name ≤ a.name) = true)
    (bd : decide (d.name ≤ b.name) = true) : decide (d.name ≤ a.name) = true := by
  simp only [decide_eq_true_eq] at ab bd ⊢
  exact String.le_trans bd ab

theorem descending_total (a b : Method) :
    (decide (b.name ≤ a.name) || decide (a.name ≤ b.name)) = true := by
  simpa using String.le_total b.name a.name

theorem sortMethods_sorted (methods : List Method) :
    (sortMethods methods).Pairwise fun earlier later => later.name ≤ earlier.name :=
  (List.pairwise_mergeSort descending_trans descending_total methods).imp of_decide_eq_true

theorem sortMethods_eq_of_perm {methods others : List Method} (perm : methods.Perm others)
    (distinct : (methods.map (·.name)).Nodup) : sortMethods methods = sortMethods others := by
  have rearranged : (sortMethods methods).Perm (sortMethods others) :=
    (sortMethods_perm methods).trans (perm.trans (sortMethods_perm others).symm)
  apply rearranged.eq_of_pairwise ?_ (sortMethods_sorted methods) (sortMethods_sorted others)
  intro a b left right above below
  have first : a ∈ methods := (sortMethods_perm methods).mem_iff.mp left
  have second : b ∈ methods := perm.mem_iff.mpr ((sortMethods_perm others).mem_iff.mp right)
  exact List.inj_on_of_nodup_map distinct first second (String.le_antisymm below above)

theorem mem_arrange : c ∈ arrange controllers ↔
    ∃ d ∈ controllers, d.methods ≠ [] ∧ c = { d with methods := sortMethods d.methods } := by
  simp only [arrange, List.mem_map, List.mem_filter, Bool.not_eq_true', List.isEmpty_eq_false_iff]
  constructor
  · rintro ⟨d, ⟨member, filled⟩, rfl⟩
    exact ⟨d, member, filled, rfl⟩
  · rintro ⟨d, member, filled, rfl⟩
    exact ⟨d, ⟨member, filled⟩, rfl⟩

theorem methods_ne_nil (member : c ∈ arrange controllers) : c.methods ≠ [] := by
  obtain ⟨d, _, filled, rfl⟩ := mem_arrange.mp member
  intro empty
  exact filled (List.Perm.nil_eq (empty ▸ sortMethods_perm d.methods)).symm

theorem names_arrange (controllers : List Controller) :
    (names (arrange controllers)).Sublist (names controllers) := by
  simp only [names, arrange, List.map_map]
  exact List.filter_sublist.map _

theorem methods_arrange_perm (controllers : List Controller) :
    ((arrange controllers).flatMap (·.methods)).Perm (controllers.flatMap (·.methods)) := by
  induction controllers with
  | nil => exact .nil
  | cons c rest ih =>
    by_cases empty : c.methods = []
    · simpa [arrange, empty] using ih
    · have head := (sortMethods_perm c.methods).append ih
      simpa [arrange, empty] using head

theorem sortMethods_strict {methods : List Method} (distinct : (methods.map (·.name)).Nodup) :
    (sortMethods methods).Pairwise fun earlier later => later.name < earlier.name := by
  have differ : (sortMethods methods).Pairwise fun earlier later => earlier.name ≠ later.name :=
    List.pairwise_map.mp (((sortMethods_perm methods).map _).nodup_iff.mpr distinct)
  refine (sortMethods_sorted methods).imp₂ ?_ differ
  intro earlier later above different
  apply String.not_le.mp
  intro below
  exact different (String.le_antisymm below above)

theorem nodup_methods_ofDocument {rules : NameRules} {doc : Document}
    (member : c ∈ ofDocument rules doc) : (c.methods.map (·.name)).Nodup := by
  obtain ⟨start, untouched, rfl⟩ := mem_ofDocument member
  apply nodup_collect
  rw [untouched.1]
  exact List.nodup_nil

theorem mem_methods_finished {rules : NameRules} {doc : Document} {m : Method}
    (member : c ∈ (Api.ofDocument rules doc).controllers) (within : m ∈ c.methods) :
    ∃ op ∈ doc.operations, rules.controller op.tag = c.name ∧
      ∃ taken, m = op.method rules doc (freshName (rules.method op.url) taken) := by
  obtain ⟨d, built, _, rfl⟩ := mem_arrange.mp member
  have before : m ∈ d.methods := (sortMethods_perm d.methods).mem_iff.mp within
  obtain ⟨op, declared, ofTag, named⟩ := mem_methods_ofDocument built before
  exact ⟨op, declared, ofTag, named⟩

theorem exists_method {α : Type} {ofMethod : Method → α} {value : α}
    (member : value ∈ (controllers.flatMap (·.methods)).map ofMethod) :
    ∃ c ∈ controllers, ∃ m ∈ c.methods, ofMethod m = value := by
  obtain ⟨m, listed, same⟩ := List.mem_map.mp member
  obtain ⟨c, within, has⟩ := List.mem_flatMap.mp listed
  exact ⟨c, within, m, has, same⟩

theorem controllers_ordered (rules : NameRules) (doc : Document) :
    (names (Api.ofDocument rules doc).controllers).Nodup ∧
    ∀ c ∈ (Api.ofDocument rules doc).controllers,
      c.methods ≠ [] ∧
      (c.methods.map (·.name)).Nodup ∧
      (c.methods.Pairwise fun earlier later => Text.bytes later.name < Text.bytes earlier.name) ∧
      c.methods.Pairwise fun earlier later => ¬Text.ProperBeginning earlier.name later.name := by
  refine ⟨?_, ?_⟩
  · apply (names_arrange _).nodup
    rw [names_ofDocument]
    exact (ready_started rules doc).distinct
  · intro c member
    obtain ⟨d, within, _, rfl⟩ := mem_arrange.mp member
    have distinct := nodup_methods_ofDocument within
    have descending := sortMethods_strict distinct
    refine ⟨methods_ne_nil member, ((sortMethods_perm _).map _).nodup_iff.mpr distinct, ?_, ?_⟩
    · exact descending.imp fun less => Text.bytes_lt_iff.mpr less
    · apply descending.imp
      intro earlier later less beginning
      exact String.lt_asymm less (Text.ProperBeginning.lt beginning)

-- A path that already looks numbered takes the name that its neighbour would have got next.
def crowded : Document :=
  { root := .obj [("paths", .obj [
      ("item_1", .obj [("get", .obj [])]),
      ("item", .obj [("get", .obj []), ("post", .obj []), ("x-note", .obj [])])])] }

theorem controllers_ordered_crowded :
    ∃ c ∈ (Api.ofDocument ⟨id, id, id⟩ crowded).controllers,
      c.name = "Default" ∧ c.methods ≠ [] ∧
      (c.methods.map (·.name)).Nodup ∧
      (c.methods.Pairwise fun earlier later => Text.bytes later.name < Text.bytes earlier.name) ∧
      c.methods.Pairwise fun earlier later => ¬Text.ProperBeginning earlier.name later.name := by
  have result : names (Api.ofDocument ⟨id, id, id⟩ crowded).controllers = ["Default"] := rfl
  obtain ⟨c, member, name⟩ := List.mem_map.mp (result ▸ List.mem_singleton_self "Default")
  exact ⟨c, member, name, (controllers_ordered ⟨id, id, id⟩ crowded).2 c member⟩

end ClientGen.Controllers
