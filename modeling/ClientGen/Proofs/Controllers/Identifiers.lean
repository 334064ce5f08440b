import ClientGen.Proofs.Controllers.Parameters
import ClientGen.Proofs.FreshName

namespace ClientGen

open Api

variable {rules : NameRules} {doc : Document}

theorem mem_identifiers_fresh {taken : List String} {fragments : List Json} {p : Parameter}
    (member : p ∈ parametersFrom rules taken fragments) : p.identifier ∉ taken := by
  induction fragments generalizing taken with
  | nil => cases member
  | cons fragment rest ih =>
    unfold parametersFrom at member
    split at member
    · exact ih member
    · rcases List.mem_cons.mp member with rfl | later
      · exact freshName_not_mem _ taken
      · exact fun used => ih later (List.mem_append_left _ used)

theorem nodup_identifiers (taken : List String) (fragments : List Json) :
    ((parametersFrom rules taken fragments).map (·.identifier)).Nodup := by
  induction fragments generalizing taken with
  | nil => exact List.nodup_nil
  | cons fragment rest ih =>
    unfold parametersFrom
    split
    · exact ih taken
    · refine List.nodup_cons.mpr ⟨?_, ih _⟩
      intro again
      obtain ⟨p, later, same⟩ := List.mem_map.mp again
      exact mem_identifiers_fresh later (List.mem_append_right _ (List.mem_singleton.mpr same))

theorem optionalLast_perm (parameters : List Parameter) : (optionalLast parameters).Perm parameters :=
  List.filter_append_perm _ _

theorem Operation.nodup_combined (op : Operation) (name : String) :
    ((op.method rules doc name).parameters.map (·.identifier)).Nodup := by
  have reordered := (optionalLast_perm ((operationParameters rules doc op).filter
    (·.location != .header))).map (·.identifier)
  have all : ((operationParameters rules doc op).map (·.identifier)).Nodup := nodup_identifiers [] _
  exact reordered.nodup_iff.mpr ((List.filter_sublist.map _).nodup all)

end ClientGen
