import ClientGen.Document.Basic
import ClientGen.Proofs.Json.Fields

namespace ClientGen

namespace Json

mutual

def distinctKeys : Json → Bool
  | .arr items => itemsDistinct items
  | .obj fields => decide (Fields.keys fields).Nodup && fieldsDistinct fields
  | _ => true

def itemsDistinct : List Json → Bool
  | [] => true
  | v :: vs => distinctKeys v && itemsDistinct vs

def fieldsDistinct : List (String × Json) → Bool
  | [] => true
  | (_, v) :: rest => distinctKeys v && fieldsDistinct rest

end

variable {value inner : Json}

theorem distinctKeys_arr {items : List Json} :
    (Json.arr items).distinctKeys = true ↔ ∀ v ∈ items, v.distinctKeys = true := by
  induction items with
  | nil => simp [distinctKeys, itemsDistinct]
  | cons v vs ih =>
    rw [distinctKeys] at ih
    simp [distinctKeys, itemsDistinct, ih]

theorem fieldsDistinct_iff {fields : Fields} :
    fieldsDistinct fields = true ↔ ∀ f ∈ fields, f.2.distinctKeys = true := by
  induction fields with
  | nil => simp [fieldsDistinct]
  | cons field rest ih => simp [fieldsDistinct, ih]

theorem distinctKeys_obj {fields : Fields} :
    (Json.obj fields).distinctKeys = true ↔
      fields.keys.Nodup ∧ ∀ f ∈ fields, f.2.distinctKeys = true := by
  simp [distinctKeys, fieldsDistinct_iff]

theorem distinctKeys_lookup {fields : Fields} {key : String}
    (distinct : (Json.obj fields).distinctKeys = true) (found : fields.lookup key = some inner) :
    inner.distinctKeys = true :=
  (distinctKeys_obj.mp distinct).2 _ (Fields.mem_of_lookup found)

theorem distinctKeys_get? {key : String} (distinct : value.distinctKeys = true)
    (found : value.get? key = some inner) : inner.distinctKeys = true := by
  cases value with
  | obj fields => exact distinctKeys_lookup distinct found
  | _ => cases found

theorem distinctKeys_child? {token : String} (distinct : value.distinctKeys = true)
    (found : value.child? token = some inner) : inner.distinctKeys = true := by
  cases value with
  | obj fields => exact distinctKeys_lookup distinct found
  | arr items =>
    obtain ⟨i, _, item⟩ := Option.bind_eq_some_iff.mp found
    exact distinctKeys_arr.mp distinct _ (List.mem_of_getElem? item)
  | _ => cases found

theorem distinctKeys_descend? {tokens : List String} (distinct : value.distinctKeys = true)
    (found : value.descend? tokens = some inner) : inner.distinctKeys = true := by
  induction tokens generalizing value with
  | nil =>
    cases found
    exact distinct
  | cons token rest ih =>
    obtain ⟨below, step, further⟩ := Option.bind_eq_some_iff.mp found
    exact ih (distinctKeys_child? distinct step) further

theorem distinctKeys_pointer? {pointer : String} (distinct : value.distinctKeys = true)
    (found : value.pointer? pointer = some inner) : inner.distinctKeys = true := by
  unfold pointer? at found
  split at found
  · cases found
    exact distinct
  · exact distinctKeys_descend? distinct found
  · cases found

end Json

theorem Document.distinctKeys_target? {doc : Document} {fragment inner : Json}
    (distinct : doc.root.distinctKeys = true) (here : fragment.distinctKeys = true)
    (found : doc.target? fragment = some inner) : inner.distinctKeys = true := by
  unfold Document.target? at found
  split at found
  · unfold Document.follow? at found
    split at found
    · exact Json.distinctKeys_pointer? distinct found
    · cases found
  · cases found
    exact here

end ClientGen
