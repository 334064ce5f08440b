import ClientGen.Proofs.Controllers.Order
import Mathlib.Data.List.Forall2

namespace ClientGen.Controllers

open Api

variable {methods : List Method}

-- What arranging makes of one controller. Methods of one name are still read in the order they had.
structure Arranged (before after : Controller) : Prop where
  rest : after = { before with methods := after.methods }
  perm : after.methods.Perm before.methods
  descending : after.methods.Pairwise fun earlier later =>
    Text.bytes later.name ≤ Text.bytes earlier.name
  stable : ∀ name, after.methods.filter (·.name = name) = before.methods.filter (·.name = name)
  longerFirst : ∀ (i j : Nat) (longer shorter : Method), after.methods[i]? = some longer →
    after.methods[j]? = some shorter → Text.ProperBeginning shorter.name longer.name → i < j

-- The methods of one name are in order already, so that sorting keeps them as a sublist, and being a
-- permutation it adds no other method of that name.
theorem sortMethods_stable (methods : List Method) (name : String) :
    (sortMethods methods).filter (·.name = name) = methods.filter (·.name = name) := by
  have alike : (methods.filter (·.name = name)).Pairwise fun a b => decide (b.name ≤ a.name) = true := by
    apply List.pairwise_of_forall_mem_list
    intro a left b right
    have first := of_decide_eq_true (List.mem_filter.mp left).2
    have second := of_decide_eq_true (List.mem_filter.mp right).2
    rw [first, second]
    exact decide_eq_true (String.le_refl name)
  have kept : (methods.filter (·.name = name)).Sublist (sortMethods methods) :=
    List.sublist_mergeSort descending_trans descending_total alike List.filter_sublist
  have within : (methods.filter (·.name = name)).Sublist ((sortMethods methods).filter (·.name = name)) := by
    simpa only [List.filter_filter, Bool.and_self] using kept.filter (·.name = name)
  exact (within.eq_of_length ((sortMethods_perm methods).filter _).length_eq.symm).symm

theorem longer_first (sorted : methods.Pairwise fun earlier later => later.name ≤ earlier.name)
    {i j : Nat} {longer shorter : Method} (atLonger : methods[i]? = some longer)
    (atShorter : methods[j]? = some shorter)
    (beginning : Text.ProperBeginning shorter.name longer.name) : i < j := by
  obtain ⟨boundLonger, rfl⟩ := List.getElem?_eq_some_iff.mp atLonger
  obtain ⟨boundShorter, rfl⟩ := List.getElem?_eq_some_iff.mp atShorter
  rcases Nat.lt_trichotomy i j with before | rfl | after
  · exact before
  · exact absurd beginning.lt (String.lt_irrefl _)
  · have below := List.pairwise_iff_getElem.mp sorted j i boundShorter boundLonger after
    exact absurd beginning.lt (String.not_lt.mpr below)

theorem arranged_sortMethods (c : Controller) : Arranged c { c with methods := sortMethods c.methods } where
  rest := rfl
  perm := sortMethods_perm c.methods
  descending := (sortMethods_sorted c.methods).imp Text.bytes_le_iff.mpr
  stable := sortMethods_stable c.methods
  longerFirst _ _ _ _ := longer_first (sortMethods_sorted c.methods)

theorem sortMethods_sortMethods (methods : List Method) :
    sortMethods (sortMethods methods) = sortMethods methods :=
  List.mergeSort_of_pairwise (List.pairwise_mergeSort descending_trans descending_total methods)

theorem arrange_arrange (controllers : List Controller) :
    arrange (arrange controllers) = arrange controllers := by
  have full : (arrange controllers).filter (fun c => !c.methods.isEmpty) = arrange controllers := by
    apply List.filter_eq_self.mpr
    intro c member
    rw [List.isEmpty_eq_false_iff.mpr (methods_ne_nil member)]
    rfl
  calc arrange (arrange controllers)
    _ = (arrange controllers).map fun c => { c with methods := sortMethods c.methods } :=
      congrArg (List.map _) full
    _ = (arrange controllers).map id := by
      apply List.map_congr_left
      intro c member
      obtain ⟨d, _, _, rfl⟩ := mem_arrange.mp member
      rw [sortMethods_sortMethods, id]
    _ = arrange controllers := List.map_id _

theorem arrange_stable (controllers : List Controller) :
    (controllers.filter fun c => !c.methods.isEmpty).Forall₂ Arranged (arrange controllers) ∧
    arrange (arrange controllers) = arrange controllers := by
  refine ⟨?_, arrange_arrange controllers⟩
  rw [arrange, List.forall₂_map_right_iff, List.forall₂_same]
  exact fun c _ => arranged_sortMethods c

end ClientGen.Controllers
