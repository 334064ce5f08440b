import ClientGen.Proofs.Controllers.Parameters
import ClientGen.Proofs.Edition.Upgrade
import ClientGen.Proofs.Schema.TypeOf
import ClientGen.Proofs.Text.SingleLine

namespace ClientGen.Upgrade

open Api

variable {r : Relocation} {rules : NameRules} {fields : Fields} {p : Json}

theorem parameter_get? (fields : Fields) (key : String) : (parameter r (.obj fields)).get? key =
    if key ∈ commonKeys then fields.lookup key
    else if key = "schema" then some (r.schema (schemaOf fields))
    else none := by
  simp only [parameter, Json.get?, List.lookup_append, Fields.lookup_only, Fields.lookup_cons_if,
    List.lookup_nil, List.contains_iff_mem]
  by_cases common : key ∈ commonKeys
  · have different : key ≠ "schema" := by
      rintro rfl
      exact absurd common (by decide)
    rw [if_pos common, if_pos common, if_neg different, Option.or_none]
  · rw [if_neg common, if_neg common, Option.none_or]

theorem parameter_schema (fields : Fields) :
    (parameter r (.obj fields)).get? "schema" = some (r.schema (schemaOf fields)) := by
  rw [parameter_get?, if_neg (by decide), if_pos rfl]

theorem schemaOf_get? {key : String} (describes : key ∉ commonKeys) :
    (schemaOf fields).get? key = fields.lookup key := by
  rw [schemaOf, Json.get?, Fields.lookup_only, List.contains_eq_mem, decide_eq_false describes]
  rfl

-- What a parameter says about its type is found one level deeper.
theorem parameter_defaultOf (bare : fields.lookup "schema" = none) :
    defaultOf (parameter r (.obj fields)) = defaultOf (.obj fields) := by
  have outside : (parameter r (.obj fields)).get? "default" = none := by
    rw [parameter_get?, if_neg (by decide), if_neg (by decide)]
  have inside : (r.schema (schemaOf fields)).get? "default" = fields.lookup "default" :=
    (r.schema_other "default" (by decide) _).trans (schemaOf_get? (by decide))
  rw [defaultOf, outside, parameter_schema, Option.bind_some, inside]
  simp only [defaultOf, Json.get?, bare, Option.bind_none]
  cases fields.lookup "default" <;> rfl

theorem parameter_typeOf : Schema.typeOf rules (some (parameter r (.obj fields))) =
    Schema.typeOf rules (some (.obj fields)) := by
  have carried : Schema.typeOf rules (some (parameter r (.obj fields))) =
      Schema.typeOf rules (some (r.schema (schemaOf fields))) := by
    refine Schema.typeOf_carried ?_ (parameter_schema fields)
    intro key composed
    have apart : key ∉ commonKeys ∧ key ≠ "schema" := by
      revert key
      decide
    refine (parameter_get? fields key).trans ?_
    rw [if_neg apart.1, if_neg apart.2]
  have same : ∀ key ∈ Schema.formKeys, (schemaOf fields).get? key = (Json.obj fields).get? key := by
    intro key keyword
    refine schemaOf_get? ?_
    revert key
    decide
  rw [carried, r.typeOf_some]
  exact Schema.typeOf_congr (Schema.Form.ofJson_congr same)

theorem parameter_interchangeable (bare : fields.lookup "schema" = none) :
    Interchangeable rules (parameter r (.obj fields)) (.obj fields) := by
  have same : ∀ key ∈ commonKeys, (parameter r (.obj fields)).get? key = (Json.obj fields).get? key := by
    intro key common
    exact (parameter_get? fields key).trans (if_pos common)
  have name : (parameter r (.obj fields)).string "name" = (Json.obj fields).string "name" := by
    rw [Json.string, same "name" (by decide), Json.string]
  have place : (parameter r (.obj fields)).string "in" = (Json.obj fields).string "in" := by
    rw [Json.string, same "in" (by decide), Json.string]
  have description : (parameter r (.obj fields)).description = (Json.obj fields).description := by
    rw [Json.description, Json.string, same "description" (by decide), Json.description, Json.string]
  have required : (parameter r (.obj fields)).flag "required" = (Json.obj fields).flag "required" := by
    rw [Json.flag, same "required" (by decide), Json.flag]
  exact interchangeable_of place name description required (parameter_defaultOf bare) parameter_typeOf

theorem body_fields (fits : bodyFits p = true) :
    ∃ name required text schema, p.get? "name" = some (.str name) ∧
      p.get? "required" = some (.bool required) ∧ p.get? "description" = some (.str text) ∧
      Text.singleLine text ≠ "" ∧ p.get? "schema" = some schema ∧
      ∀ key ∉ commonKeys ++ ["schema"], p.get? key = none := by
  simp only [bodyFits, Bool.and_eq_true, Option.isSome_iff_exists, Option.any_eq_true, bne_iff_ne,
    List.all_eq_true, List.contains_iff_mem] at fits
  obtain ⟨⟨⟨⟨⟨name, named⟩, required, flag⟩, text, described, visible⟩, schema, typed⟩, closed⟩ := fits
  refine ⟨name, required, text, schema, Json.string_eq_some.mp named, Json.flag_eq_some.mp flag,
    Json.string_eq_some.mp described, visible, typed, ?_⟩
  intro key other
  rw [Json.get?_eq_lookup]
  cases found : (p.obj?.getD []).lookup key with
  | none => rfl
  | some value => exact absurd (closed _ (Fields.mem_of_lookup found)) other

-- The parameter object that the reader of OpenAPI 3 makes of a converted body.
def restored (name : String) (required : Bool) (text : String) (schema : Json) : Json :=
  .obj [
    ("name", .str name),
    ("in", .str "body"),
    ("required", .bool required),
    ("description", .str (Text.singleLine text)),
    ("schema", schema)]

theorem ofRequestBody_bodyOf {name text : String} {required : Bool} {schema : Json}
    (named : p.get? "name" = some (.str name)) (flag : p.get? "required" = some (.bool required))
    (described : p.get? "description" = some (.str text)) (visible : Text.singleLine text ≠ "")
    (typed : p.get? "schema" = some schema) :
    ofRequestBody (bodyOf r p) = restored name required text (r.schema schema) := by
  have line : (bodyOf r p).description = Text.singleLine text := by
    rw [bodyOf, described]
    rfl
  rw [ofRequestBody, line, orNoDescription, if_neg visible, bodyOf, named, flag, typed]
  rfl

theorem restored_typeOf {name text : String} {required : Bool} {schema : Json} :
    Schema.typeOf rules (some (restored name required text schema)) =
      Schema.typeOf rules (some schema) := by
  refine Schema.typeOf_carried ?_ rfl
  intro key composed
  simp only [List.mem_cons, List.not_mem_nil, or_false] at composed
  rcases composed with rfl | rfl | rfl <;> rfl

theorem body_interchangeable (fits : bodyFits p = true) (isBody : isBody p = true) :
    Interchangeable rules (ofRequestBody (bodyOf r p)) p := by
  obtain ⟨name, required, text, schema, named, flag, described, visible, typed, closed⟩ :=
    body_fields fits
  have place : p.string "in" = some "body" := beq_iff_eq.mp isBody
  have type : Schema.typeOf rules (some p) = Schema.typeOf rules (some schema) := by
    refine Schema.typeOf_carried ?_ typed
    intro key composed
    apply closed key
    revert key
    decide
  have default : defaultOf p = schema.get? "default" := by
    rw [defaultOf, closed "default" (by decide), typed]
    rfl
  have line : p.description = Text.singleLine text := by
    rw [Json.description, Json.string_eq_some.mpr described]
    rfl
  rw [ofRequestBody_bodyOf named flag described visible typed]
  refine interchangeable_of place.symm (Json.string_eq_some.mpr named).symm ?_ (Json.flag_eq_some.mpr flag).symm
    ?_ ?_
  · rw [line]
    exact Text.singleLine_singleLine text
  · rw [default]
    exact r.schema_other "default" (by decide) schema
  · rw [restored_typeOf, r.typeOf_some, type]

theorem inline_interchangeable (plain : isPlainObject p = true) (bare : p.get? "schema" = none) :
    Interchangeable rules (parameter r p) p := by
  cases p with
  | obj fields => exact parameter_interchangeable bare
  | _ => cases plain

-- The body comes first on both sides: the converted list follows the request body, and in the original
-- list only the first parameter may be a body.
theorem parameters_interchangeable {items : List Json} (fit : parametersFit items = true) :
    List.Forall₂ (Interchangeable rules)
      (((items.find? isBody).map fun p => ofRequestBody (bodyOf r p)).toList ++
        (items.filter fun p => !isBody p).map (parameter r)) items := by
  simp only [parametersFit, Bool.and_eq_true, List.all_eq_true] at fit
  obtain ⟨⟨plain, single⟩, each⟩ := fit
  have inline : ∀ p ∈ items, isBody p = false → Interchangeable rules (parameter r p) p := by
    intro p member other
    have bare := each p member
    rw [if_neg (by simp [other]), Option.isNone_iff_eq_none] at bare
    exact inline_interchangeable (plain p member) bare
  cases items with
  | nil => exact .nil
  | cons first rest =>
    have others : ∀ p ∈ rest, isBody p = false := by simpa using single
    have kept : (rest.filter fun p => !isBody p) = rest :=
      List.filter_eq_self.mpr fun p member => by simp [others p member]
    have absent : rest.find? isBody = none :=
      List.find?_eq_none.mpr fun p member => by simp [others p member]
    have later : List.Forall₂ (Interchangeable rules) (rest.map (parameter r)) rest :=
      List.forall₂_map_left_iff.mpr (List.forall₂_same.mpr fun p member =>
        inline p (List.mem_cons_of_mem _ member) (others p member))
    cases body : isBody first with
    | true =>
      have fits := each first List.mem_cons_self
      rw [if_pos body] at fits
      rw [List.find?_cons_of_pos body, List.filter_cons_of_neg (by simp [body]), kept]
      exact .cons (body_interchangeable fits body) later
    | false =>
      rw [List.find?_cons_of_neg (by simp [body]), List.filter_cons_of_pos (by simp [body]), absent, kept]
      exact .cons (inline first List.mem_cons_self body) later

end ClientGen.Upgrade
