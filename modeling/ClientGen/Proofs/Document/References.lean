import ClientGen.Proofs.Schema.References

namespace ClientGen

namespace Json

mutual

def references : Json → List String
  | .arr items => itemReferences items
  | .obj fields => ((Json.obj fields).string "$ref").toList ++ fieldReferences fields
  | _ => []

def itemReferences : List Json → List String
  | [] => []
  | v :: vs => references v ++ itemReferences vs

def fieldReferences : List (String × Json) → List String
  | [] => []
  | (_, v) :: rest => references v ++ fieldReferences rest

end

theorem itemReferences_eq (items : List Json) : itemReferences items = items.flatMap references := by
  induction items with
  | nil => rfl
  | cons v vs ih => rw [itemReferences, ih, List.flatMap_cons]

theorem fieldReferences_eq (fields : Fields) :
    fieldReferences fields = fields.flatMap fun field => field.2.references := by
  induction fields with
  | nil => rfl
  | cons field rest ih => rw [fieldReferences, ih, List.flatMap_cons]

variable {value : Json} {reference : String}

theorem mem_references_here (found : value.string "$ref" = some reference) :
    reference ∈ value.references := by
  cases value with
  | obj fields =>
    rw [references, found]
    exact List.mem_append_left _ List.mem_cons_self
  | _ => cases found

theorem references_mono {part : Json} (inside : part.Occurs value) :
    part.references ⊆ value.references := by
  induction inside with
  | self => exact List.Subset.refl _
  | item member _ ih =>
    intro reference found
    rw [references, itemReferences_eq]
    exact List.mem_flatMap.mpr ⟨_, member, ih found⟩
  | field member _ ih =>
    intro reference found
    rw [references, fieldReferences_eq]
    exact List.mem_append_right _ (List.mem_flatMap.mpr ⟨_, member, ih found⟩)

theorem refers_of_mem : (value : Json) → reference ∈ value.references → value.Refers reference
  | .arr items, member => by
    rw [references, itemReferences_eq] at member
    obtain ⟨v, within, found⟩ := List.mem_flatMap.mp member
    exact (refers_of_mem v found).within (.item within (.self v))
  | .obj fields, member => by
    rw [references, fieldReferences_eq] at member
    rcases List.mem_append.mp member with here | below
    · exact ⟨_, .self _, Option.mem_toList.mp here⟩
    · obtain ⟨⟨key, v⟩, within, found⟩ := List.mem_flatMap.mp below
      exact (refers_of_mem v found).within (.field within (.self v))
  | .null, member | .bool _, member | .num _, member | .str _, member => nomatch member
termination_by value => sizeOf value
decreasing_by
  · have smaller := List.sizeOf_lt_of_mem within
    simp only [Json.arr.sizeOf_spec]
    omega
  · have smaller := List.sizeOf_lt_of_mem within
    simp only [Json.obj.sizeOf_spec, Prod.mk.sizeOf_spec] at smaller ⊢
    omega

theorem mem_references : reference ∈ value.references ↔ value.Refers reference := by
  constructor
  · exact refers_of_mem value
  · rintro ⟨part, inside, found⟩
    exact references_mono inside (mem_references_here found)

end Json

namespace Document

-- The tokens that a reference goes along in its own document, none of them for the root. A text of
-- another form leads nowhere.
def steps? (reference : String) : Option (List String) :=
  match reference.toList with
  | ['#'] => some []
  | '#' :: '/' :: rest => some ((Json.splitSlash rest).map Json.pointerToken)
  | _ => none

theorem follow?_eq (doc : Document) (reference : String) :
    doc.follow? reference = (steps? reference).bind doc.root.descend? := by
  unfold follow? steps? Json.pointer?
  cases reference.toList with
  | nil => rfl
  | cons first rest =>
    by_cases sign : first = '#'
    · subst sign
      cases rest with
      | nil => rfl
      | cons second tokens => by_cases slash : second = '/' <;> simp [slash]
    · simp [sign]

-- The reference leads neither to the root of its document nor into this part of it.
def avoids (part reference : String) : Bool :=
  match steps? reference with
  | none => true
  | some [] => false
  | some (first :: _) => first != part

def Spares (doc : Document) (part : String) : Prop :=
  ∀ reference, doc.root.Refers reference → avoids part reference = true

instance (doc : Document) (part : String) : Decidable (doc.Spares part) :=
  decidable_of_iff (∀ reference ∈ doc.root.references, avoids part reference = true)
    (forall_congr' fun _ => imp_congr_left Json.mem_references)

end Document

end ClientGen
