import ClientGen.Proofs.Document.References
import Mathlib.Data.List.Basic

namespace ClientGen.Document

-- Two documents that hold the same at the top, whatever they hold in this part.
structure AgreeBut (part : String) (one other : Document) : Prop where
  keys : ∀ key ≠ part, other.root.get? key = one.root.get? key
  tokens : ∀ token ≠ part, other.root.child? token = one.root.child? token

variable {part : String} {one other : Document}

namespace AgreeBut

theorem of_fields {these those : Fields} (same : ∀ key ≠ part, those.lookup key = these.lookup key) :
    AgreeBut part ⟨.obj these⟩ ⟨.obj those⟩ := ⟨same, same⟩

theorem refl (part : String) (doc : Document) : AgreeBut part doc doc :=
  ⟨fun _ _ => rfl, fun _ _ => rfl⟩

theorem edition (agree : AgreeBut part one other) (elsewhere : part ≠ "openapi") :
    other.edition = one.edition := by
  rw [Document.edition, Document.edition, agree.keys _ elsewhere.symm]

theorem info (agree : AgreeBut part one other) (elsewhere : part ≠ "info") :
    other.info = one.info := by
  simp only [Document.info, infoField, agree.keys _ elsewhere.symm]

theorem tags (agree : AgreeBut part one other) (elsewhere : part ≠ "tags") :
    other.tags = one.tags := by
  simp only [Document.tags, Json.list, agree.keys _ elsewhere.symm]

theorem paths (agree : AgreeBut part one other) (elsewhere : part ≠ "paths") :
    other.paths = one.paths := by
  simp only [Document.paths, Json.fields, agree.keys _ elsewhere.symm]

theorem schemas (agree : AgreeBut part one other)
    (elsewhere : part ∉ ["openapi", "components", "definitions"]) : other.schemas = one.schemas := by
  simp only [List.mem_cons, List.not_mem_nil, or_false, not_or] at elsewhere
  obtain ⟨openapi, components, definitions⟩ := elsewhere
  have same := agree.edition openapi
  simp only [Document.schemas, same, Json.fields, agree.keys _ (Ne.symm components),
    agree.keys _ (Ne.symm definitions)]

theorem descend? (agree : AgreeBut part one other) {first : String} (elsewhere : first ≠ part)
    (rest : List String) : other.root.descend? (first :: rest) = one.root.descend? (first :: rest) := by
  rw [Json.descend?, Json.descend?, agree.tokens first elsewhere]

theorem follow? (agree : AgreeBut part one other) {reference : String}
    (spared : avoids part reference = true) : other.follow? reference = one.follow? reference := by
  rw [follow?_eq, follow?_eq]
  unfold avoids at spared
  split at spared
  · rename_i nowhere
    rw [nowhere]
    rfl
  · cases spared
  · rename_i first rest steps
    rw [steps]
    exact agree.descend? (bne_iff_ne.mp spared) rest

theorem target? (agree : AgreeBut part one other) (spares : one.Spares part) {fragment : Json}
    (inside : fragment.Occurs one.root) : other.target? fragment = one.target? fragment := by
  unfold Document.target?
  cases found : fragment.string "$ref" with
  | none => rfl
  | some reference => exact agree.follow? (spares reference ⟨fragment, inside, found⟩)

theorem targets (agree : AgreeBut part one other) (spares : one.Spares part) {fragments : List Json}
    (inside : ∀ fragment ∈ fragments, fragment.Occurs one.root) :
    fragments.filterMap other.target? = fragments.filterMap one.target? :=
  List.filterMap_congr fun fragment member => agree.target? spares (inside fragment member)

end AgreeBut

def withPaths (doc : Document) (paths : Fields) : Document :=
  match doc.root with
  | .obj fields => ⟨.obj (Fields.put fields "paths" (.obj paths))⟩
  | _ => doc

def withPath (doc : Document) (url : String) (item : Json) : Document :=
  doc.withPaths (doc.paths.getD [] ++ [(url, item)])

def without (doc : Document) (part : String) : Document :=
  match doc.root with
  | .obj fields => ⟨.obj (Fields.only (· ≠ part) fields)⟩
  | _ => doc

theorem agree_withPaths (doc : Document) (paths : Fields) :
    AgreeBut "paths" doc (doc.withPaths paths) := by
  obtain ⟨root⟩ := doc
  cases root with
  | obj fields =>
    apply AgreeBut.of_fields
    intro key elsewhere
    rw [Fields.lookup_put, if_neg elsewhere]
  | _ => exact .refl _ _

theorem agree_withPath (doc : Document) (url : String) (item : Json) :
    AgreeBut "paths" doc (doc.withPath url item) := doc.agree_withPaths _

theorem agree_without (doc : Document) (part : String) : AgreeBut part doc (doc.without part) := by
  obtain ⟨root⟩ := doc
  cases root with
  | obj fields =>
    apply AgreeBut.of_fields
    intro key elsewhere
    rw [Fields.lookup_only, if_pos (decide_eq_true elsewhere)]
  | _ => exact .refl _ _

-- Only an object can hold paths, so other roots have none before or after.
theorem withPaths_paths (doc : Document) (paths : Fields) :
    (doc.withPaths paths).paths = doc.root.obj?.map fun _ => paths := by
  obtain ⟨root⟩ := doc
  cases root with
  | obj fields =>
    simp only [withPaths, Document.paths, Json.fields, Json.get?, Fields.lookup_put, if_true]
    rfl
  | _ => rfl

theorem withPaths_of_other {doc : Document} (other : doc.root.obj? = none) (paths : Fields) :
    doc.withPaths paths = doc := by
  obtain ⟨root⟩ := doc
  cases root with
  | obj fields => cases other
  | _ => rfl

theorem without_get? (doc : Document) (part : String) : (doc.without part).root.get? part = none := by
  obtain ⟨root⟩ := doc
  cases root with
  | obj fields =>
    simp only [without, Json.get?, Fields.lookup_only]
    simp
  | _ => rfl

end ClientGen.Document
