import ClientGen.Json.Basic

namespace ClientGen.Fields

variable {fields : Fields} {key : String} {value : Json}

theorem lookup_cons_if (key k : String) (v : Json) (rest : Fields) :
    ((k, v) :: rest : Fields).lookup key = if key = k then some v else rest.lookup key := by
  rw [List.lookup_cons]
  by_cases same : key = k
  · rw [if_pos same, beq_iff_eq.mpr same]
  · rw [if_neg same, beq_eq_false_iff_ne.mpr same]

theorem mem_of_lookup (found : fields.lookup key = some value) : (key, value) ∈ fields := by
  obtain ⟨before, after, rfl, _⟩ := List.lookup_eq_some_iff.mp found
  simp

theorem lookup_of_mem (distinct : fields.keys.Nodup) (member : (key, value) ∈ fields) :
    fields.lookup key = some value := by
  induction fields with
  | nil => cases member
  | cons field rest ih =>
    obtain ⟨absent, tail⟩ := List.nodup_cons.mp distinct
    rcases List.mem_cons.mp member with rfl | later
    · exact List.lookup_cons_self
    · have different : key ≠ field.1 := by
        rintro rfl
        exact absent (List.mem_map.mpr ⟨_, later, rfl⟩)
      rw [lookup_cons_if, if_neg different]
      exact ih tail later

theorem lookup_put (fields : Fields) (name : String) (value : Json) (key : String) :
    (fields.put name value).lookup key = if key = name then some value else fields.lookup key := by
  induction fields with
  | nil => rw [put, lookup_cons_if]
  | cons field rest ih =>
    obtain ⟨k, v⟩ := field
    rw [put, lookup_cons_if]
    by_cases here : k = name
    · rw [if_pos here, lookup_cons_if, here]
      by_cases same : key = name <;> simp [same]
    · rw [if_neg here, lookup_cons_if, ih]
      by_cases same : key = k <;> simp [same, here]

def only (keep : String → Bool) (fields : Fields) : Fields := fields.filter fun f => keep f.1

theorem lookup_only (keep : String → Bool) (fields : Fields) (key : String) :
    (fields.only keep).lookup key = if keep key then fields.lookup key else none := by
  induction fields with
  | nil => simp [only]
  | cons field rest ih =>
    obtain ⟨k, v⟩ := field
    unfold only at ih ⊢
    by_cases kept : keep k = true
    · rw [List.filter_cons, if_pos kept, lookup_cons_if, lookup_cons_if, ih]
      by_cases same : key = k <;> simp [same, kept]
    · rw [List.filter_cons, if_neg kept, lookup_cons_if, ih]
      by_cases same : key = k <;> simp [same, kept]

def rewrite (change : String → Json → Json) (fields : Fields) : Fields :=
  fields.map fun f => (f.1, change f.1 f.2)

theorem lookup_rewrite (change : String → Json → Json) (fields : Fields) (key : String) :
    (fields.rewrite change).lookup key = (fields.lookup key).map (change key) := by
  induction fields with
  | nil => rfl
  | cons field rest ih =>
    obtain ⟨k, v⟩ := field
    unfold rewrite at ih ⊢
    rw [List.map_cons, lookup_cons_if, lookup_cons_if, ih]
    by_cases same : key = k <;> simp [same]

theorem lookup_append_option (fields : Fields) (name key : String) (value : Option Json) :
    (fields ++ (value.map fun v => (name, v)).toList).lookup key =
      (fields.lookup key).or (if key = name then value else none) := by
  rw [List.lookup_append]
  cases value with
  | none => simp
  | some v => simp only [Option.map_some, Option.toList_some, lookup_cons_if, List.lookup_nil]

end ClientGen.Fields

namespace ClientGen.Json

variable {value : Json} {key : String}

theorem get?_eq_lookup (value : Json) (key : String) :
    value.get? key = (value.obj?.getD []).lookup key := by
  cases value <;> rfl

theorem string_eq_some {text : String} :
    value.string key = some text ↔ value.get? key = some (.str text) := by
  unfold string
  cases value.get? key with
  | none => simp
  | some inner => cases inner <;> simp [str?]

theorem flag_eq_some {b : Bool} : value.flag key = some b ↔ value.get? key = some (.bool b) := by
  unfold flag
  cases value.get? key with
  | none => simp
  | some inner => cases inner <;> simp [bool?]

def rewrite (change : String → Json → Json) : Json → Json
  | .obj fields => .obj (Fields.rewrite change fields)
  | other => other

theorem get?_rewrite (change : String → Json → Json) (value : Json) (key : String) :
    (value.rewrite change).get? key = (value.get? key).map (change key) := by
  cases value with
  | obj fields => exact Fields.lookup_rewrite change fields key
  | _ => rfl

theorem obj?_rewrite (change : String → Json → Json) (value : Json) :
    (value.rewrite change).obj? = value.obj?.map (Fields.rewrite change) := by
  cases value <;> rfl

def mapItems (change : Json → Json) : Json → Json
  | .arr items => .arr (items.map change)
  | other => other

theorem arr?_mapItems (change : Json → Json) (value : Json) :
    (value.mapItems change).arr? = value.arr?.map (List.map change) := by
  cases value <;> rfl

end ClientGen.Json
