import ClientGen.Proofs.Json.Occurrence
import ClientGen.Proofs.Schema.TypeOf
import ClientGen.Schema.Declarations

namespace ClientGen

-- The value holds the reference under some key `$ref`, at any depth.
def Json.Refers (value : Json) (reference : String) : Prop :=
  ∃ part : Json, part.Occurs value ∧ part.string "$ref" = some reference

theorem Json.Refers.within {part whole : Json} {reference : String} (refers : part.Refers reference)
    (inside : part.Occurs whole) : whole.Refers reference := by
  obtain ⟨holder, below, found⟩ := refers
  exact ⟨holder, .trans below inside, found⟩

namespace Schema

open Api

variable {rules : NameRules} {value inner : Json} {model : String}

namespace Form

theorem occurs_head? {key : String} {members : List Json} (list : value.list key = some members)
    (first : members.head? = some inner) : inner.Occurs value :=
  Json.occurs_list list (List.mem_of_head? first)

theorem occurs_next?_ofJson (handed : (ofJson value).next? = some (some inner)) :
    inner.Occurs value := by
  unfold ofJson at handed
  split at handed
  · rename_i list
    exact occurs_head? list (Option.some.inj handed)
  split at handed
  · rename_i list
    exact occurs_head? list (Option.some.inj handed)
  split at handed
  · rename_i list
    exact occurs_head? list (Option.some.inj handed)
  split at handed
  · rename_i found
    cases handed
    exact Json.occurs_get? found
  split at handed
  · cases handed
  split at handed
  · cases handed
  unfold ofType at handed
  split at handed
  · exact Json.occurs_get? (Option.some.inj handed)
  · rename_i name _ _
    cases primitive : Primitive.ofName? name <;> simp [primitive, next?] at handed
  · cases handed

theorem string_of_reference {target : String} (form : ofJson value = .reference target) :
    value.string "$ref" = some target := by
  unfold ofJson at form
  split at form
  · cases form
  split at form
  · cases form
  split at form
  · cases form
  split at form
  · cases form
  split at form
  · rename_i found
    cases form
    exact found
  split at form
  · cases form
  unfold ofType at form
  split at form
  · cases form
  · rename_i name _ _
    cases primitive : Primitive.ofName? name <;> simp [primitive] at form
  · cases form

theorem of_some {form : Form} (same : of (some value) = form) : form = .absent ∨ ofJson value = form := by
  cases value with
  | null => exact .inl same.symm
  | _ => exact .inr same

theorem model_of_next {form : Form} {next : Option Json} (handed : form.next? = some next) :
    (form.type rules).model = (typeOf rules next).model := by
  cases form <;> cases handed <;> rfl

theorem model_of_end {form : Form} (ends : form.next? = none)
    (named : (form.type rules).model = some model) :
    ∃ target, form = .reference target ∧ model = rules.ofReference target := by
  cases form with
  | reference target => exact ⟨target, rfl, (Option.some.inj named).symm⟩
  | absent | literals | primitive | unknown => cases named
  | alternatives | combined | carried | list => cases ends

end Form

-- The induction follows the fragments that the forms hand on.
theorem typeOf_refers (value : Json) (named : (typeOf rules (some value)).model = some model) :
    ∃ reference, value.Refers reference ∧ model = rules.ofReference reference := by
  rw [typeOf_eq] at named
  cases handed : (Form.of (some value)).next? with
  | none =>
    obtain ⟨target, form, same⟩ := Form.model_of_end handed named
    rcases Form.of_some form with absent | known
    · cases absent
    · exact ⟨target, ⟨value, .self value, Form.string_of_reference known⟩, same⟩
  | some next =>
    rw [Form.model_of_next handed] at named
    cases next with
    | none =>
      rw [typeOf_eq] at named
      cases named
    | some inner =>
      obtain ⟨reference, refers, same⟩ := typeOf_refers inner named
      rcases Form.of_some rfl with absent | form
      · rw [absent] at handed
        cases handed
      · rw [← form] at handed
        exact ⟨reference, refers.within (Form.occurs_next?_ofJson handed), same⟩
termination_by sizeOf value
decreasing_by
  have smaller := Form.sizeOf_next? handed
  simp only [Option.some.sizeOf_spec] at smaller
  omega

theorem ownProperties_refers {p : Property} (member : p ∈ ownProperties rules value)
    (named : p.type.model = some model) :
    ∃ reference, value.Refers reference ∧ model = rules.ofReference reference := by
  obtain ⟨⟨name, fragment⟩, declared, rfl⟩ := List.mem_map.mp member
  obtain ⟨reference, refers, same⟩ := typeOf_refers fragment named
  obtain ⟨properties, found, listed⟩ := mem_getD declared
  exact ⟨reference, refers.within (Json.occurs_fields found listed), same⟩

theorem modelOf_property_refers {name : String} {p : Property}
    (member : p ∈ (modelOf rules name value).properties) (named : p.type.model = some model) :
    ∃ reference, value.Refers reference ∧ model = rules.ofReference reference := by
  unfold modelOf at member
  split at member
  · rename_i members composed
    obtain ⟨part, within, declared⟩ := List.mem_flatMap.mp member
    split at declared
    · cases declared
    · obtain ⟨reference, refers, same⟩ := ownProperties_refers declared named
      exact ⟨reference, refers.within (Json.occurs_list composed within), same⟩
  · exact ownProperties_refers member named

theorem modelOf_base_refers {name : String} (based : (modelOf rules name value).base = some model) :
    ∃ reference, value.Refers reference ∧ model = rules.ofReference reference := by
  unfold modelOf at based
  split at based
  · rename_i members composed
    obtain ⟨reference, last, same⟩ := Option.map_eq_some_iff.mp based
    obtain ⟨part, within, found⟩ := List.mem_filterMap.mp (List.mem_of_getLast? last)
    exact ⟨reference, ⟨part, Json.occurs_list composed within, found⟩, same.symm⟩
  · cases based

end Schema

end ClientGen
