import ClientGen.Proofs.Schema.TypeOf
import ClientGen.Proofs.Text.Segment
import Mathlib.Logic.Function.Iterate

namespace ClientGen.Schema

open Api

-- What a fragment says by itself.
inductive Leaf where
  | void
  | reference (target : String)
  | literals (values : List Json)
  | primitive (type : Primitive)
  | unknown

def Leaf.type (rules : NameRules) : Leaf → TypeUse
  | .void => .void
  | .reference target => .named (rules.ofReference target)
  | .literals values => .literals values
  | .primitive type => .plain type.text
  | .unknown => .unknown

-- No other fragment speaks for this one.
structure Plain (value : Json) : Prop where
  single : members? value = none
  bare : value.get? "schema" = none

-- Only its type can tell what the fragment is.
structure Typed (value : Json) : Prop extends Plain value where
  unnamed : value.string "$ref" = none
  unlisted : value.list "enum" = none

inductive Tells : Option Json → Leaf → Prop where
  | absent : Tells none .void
  | null : Tells (some .null) .void
  | reference {value : Json} {target : String} (plain : Plain value)
      (named : value.string "$ref" = some target) : Tells (some value) (.reference target)
  | literals {value : Json} {values : List Json} (plain : Plain value)
      (unnamed : value.string "$ref" = none) (listed : value.list "enum" = some values) :
      Tells (some value) (.literals values)
  | primitive {value : Json} {name : String} {type : Primitive} (typed : Typed value)
      (found : value.string "type" = some name) (known : Primitive.ofName? name = some type) :
      Tells (some value) (.primitive type)
  | unknown {value : Json} (present : value ≠ .null) (typed : Typed value)
      (single : value.string "type" ≠ some "array")
      (other : (value.string "type").bind Primitive.ofName? = none) : Tells (some value) .unknown

-- `Tower fragment depth leaf`: the keywords lead from the fragment to the leaf, into so many lists.
inductive Tower : Option Json → Nat → Leaf → Prop where
  | leaf {fragment : Option Json} {leaf : Leaf} (told : Tells fragment leaf) : Tower fragment 0 leaf
  | member {value : Json} {items : List Json} {depth : Nat} {leaf : Leaf}
      (members : members? value = some items) (rest : Tower items.head? depth leaf) :
      Tower (some value) depth leaf
  | carried {value inner : Json} {depth : Nat} {leaf : Leaf} (single : members? value = none)
      (carries : value.get? "schema" = some inner) (rest : Tower (some inner) depth leaf) :
      Tower (some value) depth leaf
  | list {value : Json} {depth : Nat} {leaf : Leaf} (typed : Typed value)
      (array : value.string "type" = some "array") (rest : Tower (value.get? "items") depth leaf) :
      Tower (some value) (depth + 1) leaf

variable {rules : NameRules} {value : Json} {fragment : Option Json} {leaf : Leaf} {depth : Nat}

section Step

theorem typeOf_typed (present : value ≠ .null) (typed : Typed value) :
    typeOf rules (some value) = (Form.ofType value).type rules := by
  rw [typeOf_eq, form_present present, type_ofJson, typed.single, typed.bare, typed.unnamed, typed.unlisted]

theorem single_of_known {name : String} {type : Primitive} (found : value.string "type" = some name)
    (known : Primitive.ofName? name = some type) : value.string "type" ≠ some "array" := by
  intro array
  rw [found] at array
  rw [Option.some.inj array] at known
  cases known

theorem ofType_array (array : value.string "type" = some "array") :
    Form.ofType value = .list (value.get? "items") := by
  unfold Form.ofType
  split
  · rfl
  · rename_i other found
    rw [array] at found
    exact absurd (Option.some.inj found).symm other
  · rename_i untyped
    exact nomatch array.symm.trans untyped

theorem ofType_other (single : value.string "type" ≠ some "array") : Form.ofType value =
    (((value.string "type").bind Primitive.ofName?).map Form.primitive).getD .unknown := by
  unfold Form.ofType
  split
  · rename_i array
    exact absurd array single
  · rename_i name _ found
    rw [found]
    rfl
  · rename_i found
    rw [found]
    rfl

theorem typeOf_list (typed : Typed value) (array : value.string "type" = some "array") :
    typeOf rules (some value) = .list (typeOf rules (value.get? "items")) := by
  rw [typeOf_typed (present_of_string array) typed, ofType_array array]
  rfl

theorem typeOf_told (told : Tells fragment leaf) : typeOf rules fragment = leaf.type rules := by
  cases told with
  | absent | null =>
    rw [typeOf_eq]
    rfl
  | reference plain named =>
    rw [typeOf_eq, form_present (present_of_string named), type_ofJson, plain.single, plain.bare, named]
    rfl
  | literals plain unnamed listed =>
    rw [typeOf_eq, form_present (present_of_get? (Json.get?_of_list listed)), type_ofJson, plain.single,
      plain.bare, unnamed, listed]
    rfl
  | primitive typed found known =>
    rw [typeOf_typed (present_of_string found) typed, ofType_other (single_of_known found known), found,
      Option.bind_some, known]
    rfl
  | unknown present typed single other =>
    rw [typeOf_typed present typed, ofType_other single, other]
    rfl

end Step

section Way

theorem Tells.plain (told : Tells (some value) leaf) : Plain value := by
  cases told with
  | null => exact ⟨rfl, rfl⟩
  | reference plain | literals plain => exact plain
  | primitive typed | unknown _ typed => exact typed.toPlain

theorem Tells.not_list (told : Tells (some value) leaf) (typed : Typed value) :
    value.string "type" ≠ some "array" := by
  intro array
  cases told with
  | null => cases array
  | reference _ named =>
    rw [typed.unnamed] at named
    cases named
  | literals _ _ listed =>
    rw [typed.unlisted] at listed
    cases listed
  | primitive _ found known => exact single_of_known found known array
  | unknown _ _ single => exact single array

def leafOf : Option Json → Leaf
  | none => .void
  | some .null => .void
  | some value =>
    match value.string "$ref", value.list "enum" with
    | some target, _ => .reference target
    | none, some values => .literals values
    | none, none => (((value.string "type").bind Primitive.ofName?).map Leaf.primitive).getD .unknown

theorem leafOf_present (present : value ≠ .null) : leafOf (some value) =
    match value.string "$ref", value.list "enum" with
    | some target, _ => .reference target
    | none, some values => .literals values
    | none, none => (((value.string "type").bind Primitive.ofName?).map Leaf.primitive).getD .unknown := by
  cases value with
  | null => exact absurd rfl present
  | _ => rfl

theorem Tells.eq_leafOf (told : Tells fragment leaf) : leaf = leafOf fragment := by
  cases told with
  | absent | null => rfl
  | reference _ named => rw [leafOf_present (present_of_string named), named]
  | literals _ unnamed listed =>
    rw [leafOf_present (present_of_get? (Json.get?_of_list listed)), unnamed, listed]
  | primitive typed found known =>
    rw [leafOf_present (present_of_string found), typed.unnamed, typed.unlisted, found, Option.bind_some, known]
    rfl
  | unknown present typed _ other =>
    rw [leafOf_present present, typed.unnamed, typed.unlisted, other]
    rfl

-- The induction is on one of the two ways; at each step the other can only go on alike.
theorem Tower.unique {depth' : Nat} {leaf' : Leaf} (one : Tower fragment depth leaf)
    (other : Tower fragment depth' leaf') : depth' = depth ∧ leaf' = leaf := by
  induction one generalizing depth' with
  | leaf told =>
    cases other with
    | leaf also => exact ⟨rfl, also.eq_leafOf.trans told.eq_leafOf.symm⟩
    | member members => exact nomatch told.plain.single.symm.trans members
    | carried _ carries => exact nomatch told.plain.bare.symm.trans carries
    | list typed array => exact absurd array (told.not_list typed)
  | member members _ ih =>
    cases other with
    | leaf also => exact nomatch also.plain.single.symm.trans members
    | member again rest =>
      rw [Option.some.inj (members.symm.trans again)] at ih
      exact ih rest
    | carried single => exact nomatch single.symm.trans members
    | list typed => exact nomatch typed.single.symm.trans members
  | carried single carries _ ih =>
    cases other with
    | leaf also => exact nomatch also.plain.bare.symm.trans carries
    | member members => exact nomatch single.symm.trans members
    | carried _ again rest =>
      rw [Option.some.inj (carries.symm.trans again)] at ih
      exact ih rest
    | list typed => exact nomatch typed.bare.symm.trans carries
  | list typed array _ ih =>
    cases other with
    | leaf also => exact absurd array (also.not_list typed)
    | member members => exact nomatch typed.single.symm.trans members
    | carried _ carries => exact nomatch typed.bare.symm.trans carries
    | list _ _ rest =>
      obtain ⟨deep, same⟩ := ih rest
      exact ⟨congrArg (· + 1) deep, same⟩

-- Every step leads to a smaller fragment.
theorem exists_tower (fragment : Option Json) : ∃ depth leaf, Tower fragment depth leaf := by
  match fragment with
  | none => exact ⟨0, .void, .leaf .absent⟩
  | some value =>
    by_cases present : value = .null
    · rw [present]
      exact ⟨0, .void, .leaf .null⟩
    cases members : members? value with
    | some items =>
      obtain ⟨depth, leaf, rest⟩ := exists_tower items.head?
      exact ⟨depth, leaf, .member members rest⟩
    | none =>
    cases carries : value.get? "schema" with
    | some inner =>
      obtain ⟨depth, leaf, rest⟩ := exists_tower (some inner)
      exact ⟨depth, leaf, .carried members carries rest⟩
    | none =>
    have plain : Plain value := ⟨members, carries⟩
    cases named : value.string "$ref" with
    | some target => exact ⟨0, _, .leaf (.reference plain named)⟩
    | none =>
    cases listed : value.list "enum" with
    | some values => exact ⟨0, _, .leaf (.literals plain named listed)⟩
    | none =>
    have typed : Typed value := ⟨plain, named, listed⟩
    by_cases array : value.string "type" = some "array"
    · obtain ⟨depth, leaf, rest⟩ := exists_tower (value.get? "items")
      exact ⟨depth + 1, leaf, .list typed array rest⟩
    cases known : (value.string "type").bind Primitive.ofName? with
    | none => exact ⟨0, _, .leaf (.unknown present typed array known)⟩
    | some type =>
      obtain ⟨name, found, primitive⟩ := Option.bind_eq_some_iff.mp known
      exact ⟨0, _, .leaf (.primitive typed found primitive)⟩
termination_by sizeOf fragment
decreasing_by
  · exact Form.sizeOf_get?_opt
  · have smaller := Json.sizeOf_get? carries
    simp only [Option.some.sizeOf_spec]
    omega
  · obtain ⟨key, list⟩ := list_of_members? members
    have first := @Form.sizeOf_head? items
    have smaller := Json.sizeOf_list list
    simp only [Option.some.sizeOf_spec]
    omega

theorem typeOf_tower (tower : Tower fragment depth leaf) :
    typeOf rules fragment = TypeUse.list^[depth] (leaf.type rules) := by
  induction tower with
  | leaf told => exact typeOf_told told
  | member members _ ih => rw [typeOf_member members, ih]
  | carried single carries _ ih => rw [typeOf_inner single carries, ih]
  | list typed array _ ih => rw [typeOf_list typed array, ih, Function.iterate_succ_apply']

end Way

section Lists

theorem text_lists (depth : Nat) (t : TypeUse) : (TypeUse.list^[depth] t).text =
    String.join (List.replicate depth "Array<") ++ t.text ++ String.join (List.replicate depth ">") := by
  induction depth with
  | zero => simp
  | succ depth ih =>
    rw [Function.iterate_succ_apply', TypeUse.list, ih, List.replicate_succ, String.join_cons,
      List.replicate_succ']
    simp [String.append_assoc]

theorem sort_lists (depth : Nat) (t : TypeUse) :
    (TypeUse.list^[depth] t).sort = if 1 ≤ depth then .array else t.sort := by
  cases depth with
  | zero => rfl
  | succ depth =>
    rw [Function.iterate_succ_apply', if_pos (Nat.le_add_left 1 depth)]
    rfl

theorem model_lists (depth : Nat) (t : TypeUse) : (TypeUse.list^[depth] t).model = t.model := by
  induction depth with
  | zero => rfl
  | succ depth ih =>
    rw [Function.iterate_succ_apply']
    exact ih

end Lists

section Resolution

def Leaf.Spelled : Leaf → String → Prop
  | .void, text => text = "void"
  | .reference _, _ => True
  | .literals values, text => text = " | ".intercalate (values.map Json.text)
  | .primitive _, text => text ∈ ["string", "number", "boolean", "string | Blob"]
  | .unknown, text => text = "boolean"

theorem Leaf.spelled (rules : NameRules) (leaf : Leaf) : leaf.Spelled (leaf.type rules).text := by
  cases leaf with
  | void | literals | unknown => rfl
  | reference => trivial
  | primitive type => cases type <;> simp [Leaf.Spelled, Leaf.type, TypeUse.plain, Primitive.text]

-- The only leaves that name a model are references, and what they name is also their text.
theorem Leaf.model_type (rules : NameRules) (leaf : Leaf) (model : String) :
    (leaf.type rules).model = some model ↔
      ∃ target name, leaf = .reference target ∧ Text.EndsIn target name ∧ model = rules.model name := by
  constructor
  · intro named
    cases leaf with
    | reference target =>
      refine ⟨target, Text.lastSegment target, rfl, Text.endsIn_lastSegment target, ?_⟩
      exact (Option.some.inj named).symm
    | void | literals | primitive | unknown => cases named
  · rintro ⟨target, name, rfl, ends, rfl⟩
    rw [ends.eq_lastSegment]
    rfl

theorem Leaf.text_type {model : String} (named : (leaf.type rules).model = some model) :
    (leaf.type rules).text = model := by
  cases leaf with
  | reference target => exact Option.some.inj named
  | void | literals | primitive | unknown => cases named

theorem Leaf.sort_type (rules : NameRules) (leaf : Leaf) : (leaf.type rules).sort ≠ .array := by
  cases leaf <;> exact nofun

-- A type that is a leaf in so many lists, with its text, its sort and the model that it names.
structure Resolved (rules : NameRules) (depth : Nat) (leaf : Leaf) (t : TypeUse) : Prop where
  nested : t = TypeUse.list^[depth] (leaf.type rules)
  text : t.text = String.join (List.replicate depth "Array<") ++ (leaf.type rules).text ++
    String.join (List.replicate depth ">")
  sort : t.sort = if 1 ≤ depth then .array else (leaf.type rules).sort
  array : t.sort = .array ↔ 1 ≤ depth
  model : ∀ model, t.model = some model ↔
    ∃ target name, leaf = .reference target ∧ Text.EndsIn target name ∧ model = rules.model name
  named : ∀ model, t.model = some model → (leaf.type rules).text = model
  spelled : leaf.Spelled (leaf.type rules).text

theorem resolved_lists (rules : NameRules) (depth : Nat) (leaf : Leaf) :
    Resolved rules depth leaf (TypeUse.list^[depth] (leaf.type rules)) where
  nested := rfl
  text := text_lists depth _
  sort := sort_lists depth _
  array := by
    rw [sort_lists]
    split
    · exact iff_of_true rfl ‹_›
    · exact iff_of_false (leaf.sort_type rules) ‹_›
  model model := by
    rw [model_lists]
    exact leaf.model_type rules model
  named model named := by
    rw [model_lists] at named
    exact Leaf.text_type named
  spelled := leaf.spelled rules

theorem fragments_resolved (rules : NameRules) (fragment : Option Json) :
    ∃ depth leaf, Tower fragment depth leaf ∧ Resolved rules depth leaf (typeOf rules fragment) ∧
      ∀ depth' leaf', Tower fragment depth' leaf' → depth' = depth ∧ leaf' = leaf := by
  obtain ⟨depth, leaf, tower⟩ := exists_tower fragment
  refine ⟨depth, leaf, tower, ?_, fun _ _ other => tower.unique other⟩
  rw [typeOf_tower tower]
  exact resolved_lists rules depth leaf

-- A union of a list, whose items carry a schema that is another list, of a composition that starts with a
-- reference.
def kennels : Json :=
  .obj [("anyOf", .str "ignored"), ("oneOf", .arr [.obj [("type", .str "array"), ("items", .obj [("schema",
    .obj [("type", .str "array"), ("items", .obj [("allOf", .arr [.obj [("$ref", .str "#/definitions/Pet")],
      .obj [("properties", .obj [])]])])])])], .null])]

theorem tower_kennels : Tower (some kennels) 2 (.reference "#/definitions/Pet") := by
  refine .member rfl (.list ⟨⟨rfl, rfl⟩, rfl, rfl⟩ rfl (.carried rfl rfl ?_))
  refine .list ⟨⟨rfl, rfl⟩, rfl, rfl⟩ rfl (.member rfl (.leaf ?_))
  exact .reference ⟨rfl, rfl⟩ rfl

theorem fragments_resolved_kennels :
    Tower (some kennels) 2 (.reference "#/definitions/Pet") ∧
    Resolved .standard 2 (.reference "#/definitions/Pet") (typeOf .standard (some kennels)) ∧
    (typeOf .standard (some kennels)).text = "Array<Array<Pet>>" ∧
    (typeOf .standard (some kennels)).model = some "Pet" := by
  obtain ⟨depth, leaf, _, resolved, only⟩ := fragments_resolved .standard (some kennels)
  obtain ⟨rfl, rfl⟩ := only 2 (.reference "#/definitions/Pet") tower_kennels
  refine ⟨tower_kennels, resolved, ?_, ?_⟩
  · rw [resolved.text]
    decide +kernel
  · rw [resolved.model]
    exact ⟨_, "Pet", rfl, ⟨by decide, .inr ⟨"#/definitions", by decide⟩⟩, by decide +kernel⟩

end Resolution

end ClientGen.Schema
