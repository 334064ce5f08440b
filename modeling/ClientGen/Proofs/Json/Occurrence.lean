import ClientGen.Document.Basic
import ClientGen.Proofs.Json.Fields

namespace ClientGen

theorem mem_getD {α : Type} {listed : Option (List α)} {x : α} (member : x ∈ listed.getD []) :
    ∃ xs, listed = some xs ∧ x ∈ xs := by
  cases listed with
  | none => cases member
  | some xs => exact ⟨xs, rfl, member⟩

namespace Json

-- `Occurs part whole`: the whole is the part, or holds it somewhere inside.
inductive Occurs : Json → Json → Prop where
  | self (value : Json) : Occurs value value
  | item {part v : Json} {items : List Json} (member : v ∈ items) (inside : Occurs part v) :
      Occurs part (.arr items)
  | field {part v : Json} {key : String} {fields : Fields} (member : (key, v) ∈ fields)
      (inside : Occurs part v) : Occurs part (.obj fields)

variable {value inner : Json} {key : String}

theorem Occurs.trans {a b c : Json} (below : Occurs a b) (above : Occurs b c) : Occurs a c := by
  induction above with
  | self => exact below
  | item member _ ih => exact .item member ih
  | field member _ ih => exact .field member ih

theorem occurs_lookup {fields : Fields} (found : fields.lookup key = some inner) :
    Occurs inner (.obj fields) := .field (Fields.mem_of_lookup found) (.self inner)

theorem occurs_get? (found : value.get? key = some inner) : Occurs inner value := by
  cases value with
  | obj fields => exact occurs_lookup found
  | _ => cases found

theorem get?_of_list {items : List Json} (found : value.list key = some items) :
    value.get? key = some (.arr items) := by
  obtain ⟨inside, present, list⟩ := Option.bind_eq_some_iff.mp found
  cases inside with
  | arr _ =>
    cases list
    exact present
  | _ => cases list

theorem get?_of_fields {fields : Fields} (found : value.fields key = some fields) :
    value.get? key = some (.obj fields) := by
  obtain ⟨inside, present, object⟩ := Option.bind_eq_some_iff.mp found
  cases inside with
  | obj _ =>
    cases object
    exact present
  | _ => cases object

theorem occurs_list {items : List Json} (found : value.list key = some items) (member : inner ∈ items) :
    Occurs inner value :=
  .trans (.item member (.self inner)) (occurs_get? (get?_of_list found))

theorem occurs_listed (member : inner ∈ (value.list key).getD []) : Occurs inner value := by
  obtain ⟨items, found, listed⟩ := mem_getD member
  exact occurs_list found listed

theorem occurs_fields {fields : Fields} {name : String} (found : value.fields key = some fields)
    (member : (name, inner) ∈ fields) : Occurs inner value :=
  .trans (.field member (.self inner)) (occurs_get? (get?_of_fields found))

theorem occurs_child? {token : String} (found : value.child? token = some inner) :
    Occurs inner value := by
  cases value with
  | obj fields => exact occurs_lookup found
  | arr items =>
    obtain ⟨i, _, item⟩ := Option.bind_eq_some_iff.mp found
    exact .item (List.mem_of_getElem? item) (.self inner)
  | _ => cases found

theorem occurs_descend? {tokens : List String} (found : value.descend? tokens = some inner) :
    Occurs inner value := by
  induction tokens generalizing value with
  | nil =>
    cases found
    exact .self _
  | cons token rest ih =>
    obtain ⟨below, step, further⟩ := Option.bind_eq_some_iff.mp found
    exact .trans (ih further) (occurs_child? step)

theorem occurs_pointer? {pointer : String} (found : value.pointer? pointer = some inner) :
    Occurs inner value := by
  unfold pointer? at found
  split at found
  · cases found
    exact .self _
  · exact occurs_descend? found
  · cases found

end Json

theorem Document.occurs_target? {doc : Document} {fragment inner : Json}
    (here : fragment.Occurs doc.root) (found : doc.target? fragment = some inner) :
    inner.Occurs doc.root := by
  unfold Document.target? at found
  split at found
  · unfold Document.follow? at found
    split at found
    · exact Json.occurs_pointer? found
    · cases found
  · cases found
    exact here

end ClientGen
