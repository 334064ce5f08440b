import ClientGen.Proofs.Schema.TypeOf
import ClientGen.Schema.Declarations
import Mathlib.Data.List.Basic

namespace ClientGen

def NameRules.renaming (rules : NameRules) (rename : String → String) : NameRules :=
  { rules with model := fun name => rename (rules.model name) }

namespace Api

def inLists : Nat → String → String
  | 0, text => text
  | depth + 1, text => "Array<" ++ inLists depth text ++ ">"

-- In how many lists the name stands, counted by what the text is longer than the name.
def listsAround (text name : String) : Nat := (text.length - name.length) / "Array<>".length

-- A type that names a model names the other one, in as many lists. All other types stay.
def TypeUse.renamed (rename : String → String) (t : TypeUse) : TypeUse :=
  match t.model with
  | none => t
  | some model =>
    { t with text := inLists (listsAround t.text model) (rename model), model := some (rename model) }

def Property.renamed (rename : String → String) (p : Property) : Property :=
  { p with type := p.type.renamed rename }

def Model.renamed (rename : String → String) (m : Model) : Model :=
  { m with
    name := rename m.name
    base := m.base.map rename
    properties := m.properties.map (·.renamed rename) }

def Enum.renamed (rename : String → String) (e : Enum) : Enum := { e with name := rename e.name }

variable {rename : String → String} {t : TypeUse}

theorem length_inLists (depth : Nat) (text : String) :
    (inLists depth text).length = text.length + depth * "Array<>".length := by
  induction depth with
  | zero => simp [inLists]
  | succ depth ih =>
    have brackets : "Array<".length + ">".length = "Array<>".length := rfl
    simp only [inLists, String.length_append, ih, Nat.add_mul, Nat.one_mul]
    omega

theorem listsAround_inLists (depth : Nat) (name : String) :
    listsAround (inLists depth name) name = depth := by
  rw [listsAround, length_inLists, Nat.add_sub_cancel_left]
  exact Nat.mul_div_cancel depth (by decide)

namespace TypeUse

-- The text of a type that names a model is that name, alone or in lists.
def Spelled (t : TypeUse) : Prop :=
  ∀ model, t.model = some model → ∃ depth, t.text = inLists depth model

theorem Spelled.list (spelled : t.Spelled) : (TypeUse.list t).Spelled := by
  intro model named
  obtain ⟨depth, text⟩ := spelled model named
  exact ⟨depth + 1, by rw [TypeUse.list, text, inLists]⟩

@[simp] theorem renamed_model : (t.renamed rename).model = t.model.map rename := by
  unfold renamed
  split <;> rename_i model <;> simp [model]

theorem renamed_of_none (unnamed : t.model = none) : t.renamed rename = t := by
  rw [renamed, unnamed]

theorem renamed_named (model : String) : (named model).renamed rename = named (rename model) := by
  have depth : listsAround model model = 0 := listsAround_inLists 0 model
  simp only [renamed, named, depth, inLists]

theorem renamed_list (spelled : t.Spelled) : (list t).renamed rename = list (t.renamed rename) := by
  cases model : t.model with
  | none => simp only [renamed, list, model]
  | some name =>
    obtain ⟨depth, text⟩ := spelled name model
    have around : listsAround ("Array<" ++ t.text ++ ">") name = depth + 1 := by
      rw [text, ← inLists, listsAround_inLists]
    have inside : listsAround t.text name = depth := by rw [text, listsAround_inLists]
    simp only [renamed, list, model, around, inside, inLists]

end TypeUse

end Api

namespace Schema

open Api

variable {rules : NameRules} {rename : String → String}

-- The induction follows the fragments that the forms hand on.
theorem typeOf_spelled (rules : NameRules) (fragment : Option Json) : (typeOf rules fragment).Spelled := by
  induction fragment using typeOf.induct with
  | case2 _ _ form ih | case3 _ _ form ih | case4 _ _ form ih =>
    rw [typeOf_eq, form]
    exact ih
  | case7 _ _ form ih =>
    rw [typeOf_eq, form]
    exact ih.list
  | case5 _ _ form =>
    rw [typeOf_eq, form]
    intro model named
    exact ⟨0, Option.some.inj named⟩
  | case1 _ form | case6 _ _ form | case8 _ _ form | case9 _ form =>
    rw [typeOf_eq, form]
    intro model named
    cases named

theorem typeOf_renaming (fragment : Option Json) :
    typeOf (rules.renaming rename) fragment = (typeOf rules fragment).renamed rename := by
  induction fragment using typeOf.induct with
  | case2 _ _ form ih | case3 _ _ form ih | case4 _ _ form ih =>
    rw [typeOf_eq, typeOf_eq rules, form]
    exact ih
  | case7 _ items form ih =>
    rw [typeOf_eq, typeOf_eq rules, form, Form.type, Form.type, ih,
      TypeUse.renamed_list (typeOf_spelled rules items)]
  | case5 _ target form =>
    rw [typeOf_eq, typeOf_eq rules, form]
    exact (TypeUse.renamed_named (rules.ofReference target)).symm
  | case1 _ form | case6 _ _ form | case8 _ _ form | case9 _ form =>
    rw [typeOf_eq, typeOf_eq rules, form]
    exact (TypeUse.renamed_of_none rfl).symm

theorem ownProperties_renaming (block : Json) :
    ownProperties (rules.renaming rename) block = (ownProperties rules block).map (·.renamed rename) := by
  simp only [ownProperties, List.map_map]
  apply List.map_congr_left
  intro field _
  simp only [propertyOf, typeOf_renaming, Function.comp_apply, Property.renamed]

theorem memberProperties_renaming (members : List Json) :
    memberProperties (rules.renaming rename) members =
      (memberProperties rules members).map (·.renamed rename) := by
  simp only [memberProperties, List.map_flatMap]
  apply List.flatMap_congr
  intro member _
  split
  · rfl
  · exact ownProperties_renaming member

theorem baseOf_renaming (members : List Json) :
    baseOf (rules.renaming rename) members = (baseOf rules members).map rename := by
  rw [baseOf, baseOf, Option.map_map]
  rfl

theorem modelOf_renaming (name : String) (definition : Json) :
    modelOf (rules.renaming rename) name definition = (modelOf rules name definition).renamed rename := by
  unfold modelOf
  split
  · simp only [baseOf_renaming, memberProperties_renaming, Model.renamed]
    rfl
  · simp only [ownProperties_renaming, Model.renamed]
    rfl

theorem modelOf?_renaming (entry : String × Json) :
    modelOf? (rules.renaming rename) entry = (modelOf? rules entry).map (·.renamed rename) := by
  simp only [modelOf?, modelOf_renaming]
  split <;> rfl

theorem enumOf?_renaming (entry : String × Json) :
    enumOf? (rules.renaming rename) entry = (enumOf? rules entry).map (·.renamed rename) := by
  rw [enumOf?, enumOf?, Option.map_map]
  rfl

theorem declarations_renaming (doc : Document) : declarations (rules.renaming rename) doc =
    { models := (declarations rules doc).models.map (·.renamed rename)
      enums := (declarations rules doc).enums.map (·.renamed rename) } := by
  have models : modelOf? (rules.renaming rename) = fun entry =>
      (modelOf? rules entry).map (·.renamed rename) := funext modelOf?_renaming
  have enums : enumOf? (rules.renaming rename) = fun entry =>
      (enumOf? rules entry).map (·.renamed rename) := funext enumOf?_renaming
  simp only [declarations, models, enums, List.map_filterMap]

end Schema

end ClientGen
