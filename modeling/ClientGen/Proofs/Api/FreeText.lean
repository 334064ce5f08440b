import ClientGen.Proofs.Controllers.Descriptions

namespace ClientGen

open Api

namespace Api

-- The parameters of a method in all of its lists.
def Method.listed (m : Method) : List Parameter :=
  m.parameters ++ m.query ++ m.body ++ m.formData ++ m.header ++ m.path

def Method.freeTexts (m : Method) : List String := m.description :: m.listed.map (·.description)

def Controller.freeTexts (c : Controller) : List String := c.description :: c.methods.flatMap (·.freeTexts)

def Model.freeTexts (m : Model) : List String := m.description :: m.properties.map (·.description)

end Api

def Api.freeTexts (api : Api) : List String :=
  [api.info.title, api.info.description, api.info.version] ++ api.controllers.flatMap (·.freeTexts) ++
    api.models.flatMap (·.freeTexts) ++ api.enums.map (·.description)

variable {rules : NameRules} {doc : Document}

theorem Text.single_getD (text : Option String) {other : String} (single : SingleLine other) :
    SingleLine ((text.map singleLine).getD other) := by
  cases text with
  | none => exact single
  | some text => exact singleLine_single text

theorem Json.description_single (fragment : Json) : Text.SingleLine fragment.description :=
  Text.single_getD _ (by decide)

theorem Document.infoField_single (doc : Document) (key : String) : Text.SingleLine (doc.infoField key) :=
  Text.single_getD _ (by decide)

theorem Controllers.describedBy_single (texts : List String) : Text.SingleLine (describedBy texts) :=
  Text.single_getD _ (by decide)

theorem FallsBack.single {texts : List String} {description : String}
    (fallsBack : FallsBack texts description) : Text.SingleLine description := by
  rcases fallsBack.told with rfl | ⟨text, _, rfl⟩
  · decide
  · exact Text.singleLine_single text

theorem Operation.mem_listed {op : Operation} {name : String} {p : Parameter}
    (listed : p ∈ (op.method rules doc name).listed) : p ∈ operationParameters rules doc op := by
  simp only [Method.listed, List.mem_append] at listed
  rcases listed with ((((combined | query) | body) | formData) | header) | path
  · exact ((op.mem_parameters name p).mp combined).1
  · exact ((op.mem_at name .query p).mp query).1
  · exact ((op.mem_at name .body p).mp body).1
  · exact ((op.mem_at name .formData p).mp formData).1
  · exact ((op.mem_at name .header p).mp header).1
  · exact ((op.mem_at name .path p).mp path).1

theorem Operation.method_single (op : Operation) (name : String) :
    ∀ text ∈ (op.method rules doc name).freeTexts, Text.SingleLine text := by
  intro text member
  rcases List.mem_cons.mp member with rfl | ofParameter
  · exact (operationDescription_fallsBack op).single
  · obtain ⟨p, listed, rfl⟩ := List.mem_map.mp ofParameter
    obtain ⟨fragment, _, stands⟩ := mem_parametersFrom (mem_listed listed)
    rw [stands.description]
    exact fragment.description_single

theorem controller_single {c : Controller} (member : c ∈ (Api.ofDocument rules doc).controllers) :
    ∀ text ∈ c.freeTexts, Text.SingleLine text := by
  intro text found
  rcases List.mem_cons.mp found with rfl | ofMethod
  · rw [Controllers.description_finished member]
    exact Controllers.describedBy_single _
  · obtain ⟨m, within, listed⟩ := List.mem_flatMap.mp ofMethod
    obtain ⟨op, _, _, taken, rfl⟩ := Controllers.mem_methods_finished member within
    exact op.method_single _ text listed

namespace Schema

theorem ownProperties_single {block : Json} {p : Property} (member : p ∈ ownProperties rules block) :
    Text.SingleLine p.description := by
  obtain ⟨⟨name, fragment⟩, _, rfl⟩ := List.mem_map.mp member
  exact fragment.description_single

theorem modelOf_single (name : String) (definition : Json) :
    ∀ text ∈ (modelOf rules name definition).freeTexts, Text.SingleLine text := by
  intro text member
  unfold modelOf at member
  split at member <;> rcases List.mem_cons.mp member with rfl | ofProperty
  · exact definition.description_single
  · obtain ⟨p, listed, rfl⟩ := List.mem_map.mp ofProperty
    obtain ⟨block, _, within⟩ := List.mem_flatMap.mp listed
    split at within
    · cases within
    · exact ownProperties_single within
  · exact definition.description_single
  · obtain ⟨p, listed, rfl⟩ := List.mem_map.mp ofProperty
    exact ownProperties_single listed

end Schema

theorem model_single {m : Model} (member : m ∈ (Api.ofDocument rules doc).models) :
    ∀ text ∈ m.freeTexts, Text.SingleLine text := by
  obtain ⟨declared, within, rfl⟩ := List.mem_map.mp member
  obtain ⟨⟨name, definition⟩, _, made⟩ := List.mem_filterMap.mp within
  simp only [Schema.modelOf?] at made
  split at made
  · cases made
  · obtain rfl := Option.some.inj made
    exact Schema.modelOf_single name definition

theorem enum_single {e : Enum} (member : e ∈ (Api.ofDocument rules doc).enums) :
    Text.SingleLine e.description := by
  obtain ⟨⟨name, definition⟩, _, made⟩ := List.mem_filterMap.mp member
  obtain ⟨values, _, rfl⟩ := Option.map_eq_some_iff.mp made
  exact definition.description_single

theorem free_texts_single (rules : NameRules) (doc : Document) :
    ∀ text ∈ (Api.ofDocument rules doc).freeTexts, Text.SingleLine text := by
  intro text member
  simp only [Api.freeTexts, List.mem_append, List.mem_cons, List.not_mem_nil, or_false] at member
  rcases member with (((rfl | rfl | rfl) | ofController) | ofModel) | ofEnum
  · exact doc.infoField_single "title"
  · exact doc.infoField_single "description"
  · exact doc.infoField_single "version"
  · obtain ⟨c, within, listed⟩ := List.mem_flatMap.mp ofController
    exact controller_single within text listed
  · obtain ⟨m, within, listed⟩ := List.mem_flatMap.mp ofModel
    exact model_single within text listed
  · obtain ⟨e, within, rfl⟩ := List.mem_map.mp ofEnum
    exact enum_single within

-- Line breaks in the title, in a tag, in a summary, in a body that is made up and in a block of a composition.
def broken : Document :=
  { root := .obj [
      ("openapi", .str "3.0.0"),
      ("info", .obj [("title", .str "Pet\r\nshop"), ("version", .str "1\n")]),
      ("tags", .arr [.obj [("name", .str "Pet"), ("description", .str "All\nabout pets")]]),
      ("components", .obj [("schemas", .obj [
        ("Pet", .obj [("description", .str "A\rpet"), ("allOf", .arr [.obj [("properties", .obj [
          ("name", .obj [("description", .str "Its\nname")])])]])])])]),
      ("paths", .obj [("/pets", .obj [("post", .obj [("tags", .arr [.str "Pet"]),
        ("summary", .str "Add\na pet"), ("requestBody", .obj [("description", .str "The\npet")])])])])] }

theorem free_texts_single_broken :
    (Api.ofDocument .standard broken).freeTexts = ["Petshop", "", "1", "Allabout pets", "Adda pet",
      "Thepet", "Thepet", "Apet", "Itsname"] ∧
    "Thepet" ∈ (Api.ofDocument .standard broken).freeTexts ∧ Text.SingleLine "Thepet" := by
  have texts : (Api.ofDocument .standard broken).freeTexts = ["Petshop", "", "1", "Allabout pets",
      "Adda pet", "Thepet", "Thepet", "Apet", "Itsname"] := by decide +kernel
  have member : "Thepet" ∈ (Api.ofDocument .standard broken).freeTexts := by
    rw [texts]
    decide
  exact ⟨texts, member, free_texts_single .standard broken "Thepet" member⟩

end ClientGen
