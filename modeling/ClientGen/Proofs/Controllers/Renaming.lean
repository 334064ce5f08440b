import ClientGen.Api.OfDocument
import ClientGen.Proofs.Schema.Renaming

namespace ClientGen

open Api

namespace Api

def Parameter.renamed (rename : String → String) (p : Parameter) : Parameter :=
  { p with type := p.type.renamed rename }

def Method.renamed (rename : String → String) (m : Method) : Method :=
  { m with
    parameters := m.parameters.map (·.renamed rename)
    query := m.query.map (·.renamed rename)
    body := m.body.map (·.renamed rename)
    formData := m.formData.map (·.renamed rename)
    header := m.header.map (·.renamed rename)
    path := m.path.map (·.renamed rename)
    response := m.response.renamed rename }

def Controller.renamed (rename : String → String) (c : Controller) : Controller :=
  { c with methods := c.methods.map (Method.renamed rename), imports := c.imports.map rename }

end Api

def Api.renamed (rename : String → String) (api : Api) : Api :=
  { api with
    controllers := api.controllers.map (Controller.renamed rename)
    models := api.models.map (Model.renamed rename)
    enums := api.enums.map (Enum.renamed rename) }

variable {rules : NameRules} {doc : Document} {rename : String → String}

theorem parametersFrom_renaming (taken : List String) (fragments : List Json) :
    parametersFrom (rules.renaming rename) taken fragments =
      (parametersFrom rules taken fragments).map (·.renamed rename) := by
  induction fragments generalizing taken with
  | nil => rfl
  | cons fragment rest ih =>
    unfold parametersFrom
    split
    · exact ih taken
    · simp only [Parameter.ofJson, Schema.typeOf_renaming, ih, List.map_cons, Parameter.renamed]

theorem resultType_renaming (op : Operation) :
    resultType (rules.renaming rename) doc op = (resultType rules doc op).renamed rename := by
  have any : TypeUse.any.renamed rename = TypeUse.any := TypeUse.renamed_of_none rfl
  simp only [resultType, Schema.typeOf_renaming]
  split
  · exact any.symm
  · split
    · split
      · rfl
      · exact any.symm
    · rfl

theorem Operation.method_renaming (op : Operation) (name : String) :
    op.method (rules.renaming rename) doc name = (op.method rules doc name).renamed rename := by
  have parameters : operationParameters (rules.renaming rename) doc op =
      (operationParameters rules doc op).map (·.renamed rename) := parametersFrom_renaming [] _
  simp only [Operation.method, Method.renamed, parameters, resultType_renaming, located, optionalLast,
    List.filter_map, List.map_append]
  rfl

theorem Api.Method.references_renamed (m : Method) :
    (m.renamed rename).references = m.references.map rename := by
  have types : (m.renamed rename).types = m.types.map (·.renamed rename) := by
    simp only [Method.types, Method.renamed, List.map_append, List.map_map, List.map_cons, List.map_nil]
    rfl
  simp only [Method.references, types, List.filterMap_map, List.map_filterMap, Function.comp_def,
    TypeUse.renamed_model]

namespace Controllers

variable {controllers : List Controller}

theorem addImports_map (injective : Function.Injective rename) (imports names : List String) :
    addImports (imports.map rename) (names.map rename) = (addImports imports names).map rename := by
  induction names generalizing imports with
  | nil => rfl
  | cons name rest ih =>
    have step : (if rename name ∈ imports.map rename then imports.map rename
        else imports.map rename ++ [rename name]) =
        (if name ∈ imports then imports else imports ++ [name]).map rename := by
      simp only [List.mem_map_of_injective injective]
      split
      · rfl
      · rw [List.map_append, List.map_singleton]
    simp only [addImports, List.map_cons, List.foldl_cons] at ih ⊢
    rw [step, ih]

theorem addMethod_renaming (injective : Function.Injective rename) (op : Operation) (c : Controller) :
    addMethod (rules.renaming rename) doc op (c.renamed rename) =
      (addMethod rules doc op c).renamed rename := by
  have names : (c.renamed rename).methods.map (·.name) = c.methods.map (·.name) := by
    rw [Controller.renamed, List.map_map]
    rfl
  simp only [addMethod, names, Operation.method_renaming, Method.references_renamed]
  simp only [Controller.renamed, addImports_map injective, List.map_append, List.map_cons, List.map_nil]
  rfl

theorem ensure_renaming (name : String) :
    ensure name (controllers.map (Controller.renamed rename)) =
      (ensure name controllers).map (Controller.renamed rename) := by
  have known : (controllers.map (Controller.renamed rename)).any (·.name == name) =
      controllers.any (·.name == name) := by
    rw [List.any_map]
    rfl
  rw [ensure, ensure, known]
  split
  · rfl
  · rw [List.map_append]
    rfl

theorem modify_renaming {change other : Controller → Controller} (name : String)
    (agree : ∀ c, other (c.renamed rename) = (change c).renamed rename) :
    modify name other (controllers.map (Controller.renamed rename)) =
      (modify name change controllers).map (Controller.renamed rename) := by
  simp only [modify, List.map_map]
  apply List.map_congr_left
  intro c _
  show (if c.name = name then other (c.renamed rename) else c.renamed rename) =
    (if c.name = name then change c else c).renamed rename
  rw [agree]
  split <;> rfl

theorem declare_renaming (tag : Document.Tag) :
    declare (rules.renaming rename) (controllers.map (Controller.renamed rename)) tag =
      (declare rules controllers tag).map (Controller.renamed rename) := by
  unfold declare
  dsimp only
  rw [ensure_renaming]
  split
  · rfl
  · exact modify_renaming _ fun _ => rfl

theorem file_renaming (injective : Function.Injective rename) (op : Operation) :
    file (rules.renaming rename) doc (controllers.map (Controller.renamed rename)) op =
      (file rules doc controllers op).map (Controller.renamed rename) := by
  unfold file
  dsimp only
  rw [ensure_renaming]
  exact modify_renaming _ (addMethod_renaming injective op)

theorem controllers_renaming (injective : Function.Injective rename) (doc : Document) :
    ofDocument (rules.renaming rename) doc = (ofDocument rules doc).map (Controller.renamed rename) := by
  have tags : ∀ controllers : List Controller,
      doc.tags.foldl (declare (rules.renaming rename)) (controllers.map (Controller.renamed rename)) =
        (doc.tags.foldl (declare rules) controllers).map (Controller.renamed rename) :=
    fun _ => List.foldl_hom _ fun _ tag => declare_renaming tag
  have declared : declared (rules.renaming rename) doc =
      (declared rules doc).map (Controller.renamed rename) := tags []
  rw [ofDocument, declared]
  exact List.foldl_hom _ fun _ op => file_renaming injective op

theorem sortMethods_renaming (methods : List Method) :
    sortMethods (methods.map (Method.renamed rename)) =
      (sortMethods methods).map (Method.renamed rename) := by
  have names : ∀ a ∈ methods, ∀ b ∈ methods, decide (b.name ≤ a.name) =
      decide ((b.renamed rename).name ≤ (a.renamed rename).name) := fun _ _ _ _ => rfl
  exact (List.map_mergeSort names).symm

theorem arrange_renaming :
    arrange (controllers.map (Controller.renamed rename)) =
      (arrange controllers).map (Controller.renamed rename) := by
  simp only [arrange, List.filter_map, List.map_map]
  have filled : ((fun c => !c.methods.isEmpty) ∘ Controller.renamed rename) =
      fun c => !c.methods.isEmpty := by
    funext c
    simp [Controller.renamed]
  rw [filled]
  apply List.map_congr_left
  intro c _
  simp only [Function.comp_apply, Controller.renamed, sortMethods_renaming]

end Controllers

theorem markExchanged_renaming (injective : Function.Injective rename) (controllers : List Controller)
    (m : Model) : markExchanged (controllers.map (Controller.renamed rename)) (m.renamed rename) =
      (markExchanged controllers m).renamed rename := by
  have marked : ((controllers.map (Controller.renamed rename)).any fun c => c.imports.contains (rename m.name)) =
      controllers.any fun c => c.imports.contains m.name := by
    rw [List.any_map]
    congr 1
    funext c
    rw [Bool.eq_iff_iff]
    simp only [Function.comp_apply, Controller.renamed, List.contains_iff_mem]
    exact List.mem_map_of_injective injective
  simp only [markExchanged, Model.renamed, marked]

theorem ofDocument_renaming (rules : NameRules) (doc : Document) (rename : String → String)
    (injective : Function.Injective rename) :
    Api.ofDocument (rules.renaming rename) doc = (Api.ofDocument rules doc).renamed rename := by
  have controllers : Controllers.arrange (Controllers.ofDocument (rules.renaming rename) doc) =
      (Controllers.arrange (Controllers.ofDocument rules doc)).map (Controller.renamed rename) := by
    rw [Controllers.controllers_renaming injective, Controllers.arrange_renaming]
  have models : ∀ (finished : List Controller) (models : List Model),
      (models.map (Model.renamed rename)).map (markExchanged (finished.map (Controller.renamed rename))) =
        (models.map (markExchanged finished)).map (Model.renamed rename) := by
    intro finished models
    rw [List.map_map, List.map_map]
    exact List.map_congr_left fun m _ => markExchanged_renaming injective finished m
  simp only [Api.ofDocument, Schema.declarations_renaming, controllers, models, Api.renamed]

-- A base, an enumeration, lists in a list, and a model that is imported once although two operations use it.
def kennel : Document :=
  { root := .obj [
      ("definitions", .obj [
        ("App.Dog", .obj [("allOf", .arr [.obj [("$ref", .str "#/definitions/Animal")],
          .obj [("properties", .obj [("litters", .obj [("type", .str "array"), ("items",
            .obj [("type", .str "array"), ("items", .obj [("$ref", .str "#/definitions/App.Dog")])])])])]])]),
        ("Mood", .obj [("enum", .arr [.str "calm"])])]),
      ("paths", .obj [
        ("/dogs", .obj [
          ("get", .obj [("responses", .obj [("200", .obj [("schema", .obj [("type", .str "array"),
            ("items", .obj [("$ref", .str "#/definitions/App.Dog")])])])])]),
          ("post", .obj [("parameters", .arr [
            .obj [("name", .str "mood"), ("in", .str "header"),
              ("schema", .obj [("$ref", .str "#/definitions/Mood")])],
            .obj [("name", .str "dog"), ("in", .str "body"),
              ("schema", .obj [("$ref", .str "#/definitions/App.Dog")])]])])])])] }

def namesOf (api : Api) : List (List String) × List (String × Option String × List String × Bool) :=
  (api.controllers.map (·.imports),
    api.models.map fun m => (m.name, m.base, m.properties.map (·.type.text), m.isExchanged))

theorem ofDocument_renaming_kennel :
    let rename := fun name => "I" ++ name
    Function.Injective rename ∧
    Api.ofDocument (NameRules.standard.renaming rename) kennel =
      (Api.ofDocument .standard kennel).renamed rename ∧
    namesOf (Api.ofDocument .standard kennel) =
      ([["AppDog", "Mood"]], [("AppDog", some "Animal", ["Array<Array<AppDog>>"], true)]) ∧
    namesOf (Api.ofDocument (NameRules.standard.renaming rename) kennel) =
      ([["IAppDog", "IMood"]], [("IAppDog", some "IAnimal", ["Array<Array<IAppDog>>"], true)]) := by
  intro rename
  have injective : Function.Injective rename := by
    intro one other same
    have lists := congrArg String.toList same
    simp only [rename, String.toList_append] at lists
    exact String.toList_inj.mp (List.append_cancel_left lists)
  exact ⟨injective, ofDocument_renaming .standard kennel rename injective, by decide +kernel,
    by decide +kernel⟩

-- If two models get one name, one import is lost.
example : (Api.ofDocument (NameRules.standard.renaming fun _ => "Any") kennel).controllers.map
    (·.imports) = [["Any"]] := by decide +kernel

end ClientGen
