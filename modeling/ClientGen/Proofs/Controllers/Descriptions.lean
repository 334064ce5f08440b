import ClientGen.Proofs.Controllers.Matching
import ClientGen.Proofs.Text.SingleLine

namespace ClientGen

open Api

-- A description that is never empty: one of the texts on a single line, and the placeholder if none of them
-- says anything.
structure FallsBack (texts : List String) (description : String) : Prop where
  filled : description ≠ ""
  told : description = noDescription ∨ ∃ text ∈ texts, description = Text.singleLine text
  placeholder : (∀ text ∈ texts, Text.singleLine text = "") → description = noDescription

theorem fallsBack_noDescription (texts : List String) : FallsBack texts noDescription :=
  ⟨by decide, .inl rfl, fun _ => rfl⟩

theorem fallsBack_text {texts : List String} {text : String} (member : text ∈ texts)
    (visible : Text.singleLine text ≠ "") : FallsBack texts (Text.singleLine text) :=
  ⟨visible, .inr ⟨text, member, rfl⟩, fun none => absurd (none text member) visible⟩

def Operation.texts (op : Operation) : List String := ["summary", "description"].filterMap op.body.string

theorem operationDescription_fallsBack (op : Operation) :
    FallsBack op.texts (operationDescription op) := by
  show FallsBack op.texts (((op.texts.map Text.singleLine).find? (· ≠ "")).getD noDescription)
  cases found : (op.texts.map Text.singleLine).find? (· ≠ "") with
  | none => exact fallsBack_noDescription _
  | some line =>
    obtain ⟨text, member, rfl⟩ := List.mem_map.mp (List.mem_of_find?_eq_some found)
    exact fallsBack_text member (by simpa using List.find?_some found)

theorem body_fallsBack (request : Json) :
    FallsBack (request.string "description").toList (ofRequestBody request).description := by
  have description : (ofRequestBody request).description =
      Text.singleLine (orNoDescription request.description) := rfl
  rw [description, orNoDescription]
  split
  · exact fallsBack_noDescription _
  · rename_i visible
    cases text : request.string "description" with
    | none => simp [Json.description, text] at visible
    | some text' =>
      have line : request.description = Text.singleLine text' := by
        rw [Json.description, text]
        rfl
      rw [line] at visible ⊢
      rw [Text.singleLine_singleLine]
      exact fallsBack_text (by simp) visible

namespace Controllers

variable {rules : NameRules} {doc : Document} {tags : List Document.Tag} {controllers : List Controller}
  {c : Controller}

def tagTexts (rules : NameRules) (tags : List Document.Tag) (name : String) : List String :=
  (tags.filter fun tag => rules.controller tag.name == name).filterMap (·.description)

def lastText? (texts : List String) : Option String := (texts.filter (· ≠ "")).getLast?

def describedBy (texts : List String) : String := ((lastText? texts).map Text.singleLine).getD noDescription

-- The controllers of these tags, each with what they say about it.
structure Told (rules : NameRules) (tags : List Document.Tag) (controllers : List Controller) : Prop where
  known : ∀ tag ∈ tags, rules.controller tag.name ∈ names controllers
  described : ∀ c ∈ controllers, c.description = describedBy (tagTexts rules tags c.name)

theorem tagTexts_snoc (tag : Document.Tag) (name : String) : tagTexts rules (tags ++ [tag]) name =
    tagTexts rules tags name ++ if rules.controller tag.name = name then tag.description.toList else [] := by
  unfold tagTexts
  rw [List.filter_append, List.filterMap_append]
  congr 1
  by_cases same : rules.controller tag.name = name
  · cases description : tag.description <;> simp [same, description]
  · simp [same]

theorem describedBy_append (texts later : List String) : describedBy (texts ++ later) =
    match lastText? later with
    | some text => Text.singleLine text
    | none => describedBy texts := by
  unfold describedBy lastText?
  rw [List.filter_append, List.getLast?_append]
  cases (later.filter (· ≠ "")).getLast? <;> rfl

theorem Told.fresh (told : Told rules tags controllers) {name : String}
    (new : name ∉ names controllers) : tagTexts rules tags name = [] := by
  have none : (tags.filter fun tag => rules.controller tag.name == name) = [] := by
    rw [List.filter_eq_nil_iff]
    intro tag member same
    exact new (beq_iff_eq.mp same ▸ told.known tag member)
  rw [tagTexts, none, List.filterMap_nil]

theorem told_ensure (told : Told rules tags controllers) (name : String) :
    Told rules tags (ensure name controllers) := by
  refine ⟨fun tag member => names_ensure_subset _ _ (told.known tag member), ?_⟩
  intro c member
  rcases mem_ensure_iff.mp member with old | ⟨new, rfl⟩
  · exact told.described c old
  · have none : tagTexts rules tags (blank name).name = [] := told.fresh new
    rw [none]
    rfl

theorem lastText?_description (tag : Document.Tag) :
    lastText? tag.description.toList = tag.description.filter (· ≠ "") := by
  cases description : tag.description with
  | none => rfl
  | some text => by_cases empty : text = "" <;> simp [lastText?, Option.filter, empty]

theorem told_declare (told : Told rules tags controllers) (tag : Document.Tag) :
    Told rules (tags ++ [tag]) (declare rules controllers tag) := by
  have opened := told_ensure told (rules.controller tag.name)
  have known : ∀ other ∈ tags ++ [tag],
      rules.controller other.name ∈ names (ensure (rules.controller tag.name) controllers) := by
    intro other member
    rcases List.mem_append.mp member with old | new
    · exact opened.known other old
    · exact List.mem_singleton.mp new ▸ mem_names_ensure _ _
  have elsewhere : ∀ c ∈ ensure (rules.controller tag.name) controllers, rules.controller tag.name ≠ c.name →
      c.description = describedBy (tagTexts rules (tags ++ [tag]) c.name) := by
    intro c member other
    rw [tagTexts_snoc, if_neg other, List.append_nil]
    exact opened.described c member
  -- Only a tag with a text changes what its controller has been told.
  unfold declare
  dsimp only
  split <;> rename_i last <;> rw [← lastText?_description] at last
  case h_1 =>
    refine ⟨known, ?_⟩
    intro c member
    by_cases same : rules.controller tag.name = c.name
    · rw [tagTexts_snoc, if_pos same, describedBy_append, last]
      exact opened.described c member
    · exact elsewhere c member same
  case h_2 text =>
    let describe : Controller → Controller := fun c => { c with description := Text.singleLine text }
    have named : ∀ c, (describe c).name = c.name := fun _ => rfl
    refine ⟨fun other member => (names_modify named _).symm ▸ known other member, ?_⟩
    intro c member
    obtain ⟨before, within, rfl⟩ := List.mem_map.mp member
    by_cases same : before.name = rules.controller tag.name
    · rw [if_pos same, tagTexts_snoc, if_pos same.symm, describedBy_append, last]
    · rw [if_neg same]
      exact elsewhere before within fun equal => same equal.symm

theorem told_declared (rules : NameRules) (doc : Document) : Told rules doc.tags (declared rules doc) := by
  unfold declared
  induction doc.tags using List.reverseRecOn with
  | nil => exact ⟨fun _ member => (nomatch member), fun _ member => (nomatch member)⟩
  | append_singleton tags tag ih =>
    rw [List.foldl_append]
    exact told_declare ih tag

-- Filing operations describes no controller; those that are opened for them have no tag.
theorem description_finished (member : c ∈ (Api.ofDocument rules doc).controllers) :
    c.description = describedBy (tagTexts rules doc.tags c.name) := by
  obtain ⟨start, opened, _, rfl⟩ := mem_finished.mp member
  show start.description = describedBy (tagTexts rules doc.tags start.name)
  have told := told_declared rules doc
  rcases mem_opened.mp opened with declared | ⟨new, op, _, rfl⟩
  · exact told.described start declared
  · rw [told.fresh new]
    rfl

theorem describedBy_fallsBack_iff (texts : List String) : FallsBack texts (describedBy texts) ↔
    ∀ text, lastText? texts = some text → Text.singleLine text ≠ "" := by
  unfold describedBy
  cases last : lastText? texts with
  | none => exact ⟨fun _ _ found => (nomatch found), fun _ => fallsBack_noDescription _⟩
  | some text =>
    have member : text ∈ texts := (List.mem_filter.mp (List.mem_of_getLast? last)).1
    constructor
    · intro fallsBack _ same
      cases same
      exact fallsBack.filled
    · exact fun visible => fallsBack_text member (visible text rfl)

theorem body_of_request (rules : NameRules) {op : Operation} {request : Json}
    (edition : doc.edition = .openApi3)
    (found : (op.body.get? "requestBody").bind doc.target? = some request) (name : String) :
    ∃ p rest, (op.method rules doc name).body = p :: rest ∧ StandsFor rules (ofRequestBody request) p := by
  have first : parameterObjects doc op =
      ofRequestBody request :: (inheritedParameters doc op ++ ownParameters doc op) := by
    rw [parameterObjects, requestBody, edition]
    simp only [found]
    rfl
  have place : locationOf? (ofRequestBody request) = some .body := rfl
  show ∃ p rest, located .body (parametersFrom rules [] (parameterObjects doc op)) = p :: rest ∧ _
  rw [first, parametersFrom, place]
  exact ⟨_, _, List.filter_cons_of_pos rfl, place, rfl, rfl, rfl, rfl, rfl⟩

theorem descriptions_fall_back (rules : NameRules) (doc : Document) :
    ∀ c ∈ (Api.ofDocument rules doc).controllers,
      c.description = describedBy (tagTexts rules doc.tags c.name) ∧
      (FallsBack (tagTexts rules doc.tags c.name) c.description ↔
        ∀ text, lastText? (tagTexts rules doc.tags c.name) = some text → Text.singleLine text ≠ "") ∧
      ∀ m ∈ c.methods, ∃ op ∈ doc.operations, rules.controller op.tag = c.name ∧
        m = op.method rules doc m.name ∧ FallsBack op.texts m.description ∧
        (doc.edition = .openApi3 → ∀ request,
          (op.body.get? "requestBody").bind doc.target? = some request →
          ∃ p rest, m.body = p :: rest ∧ StandsFor rules (ofRequestBody request) p ∧
            FallsBack (request.string "description").toList p.description) := by
  intro c member
  have described := description_finished member
  refine ⟨described, described ▸ describedBy_fallsBack_iff _, ?_⟩
  intro m within
  obtain ⟨op, declared, tag, taken, rfl⟩ := mem_methods_finished member within
  refine ⟨op, declared, tag, rfl, operationDescription_fallsBack op, ?_⟩
  intro edition request found
  obtain ⟨p, rest, first, stands⟩ := body_of_request rules edition found _
  exact ⟨p, rest, first, stands, stands.description ▸ body_fallsBack request⟩

-- Two tags describe one controller, and the last thing that they say is a line break. The summary of the
-- operation is one as well, and its body has no description.
def silent : Document :=
  { root := .obj [
      ("openapi", .str "3.0.0"),
      ("tags", .arr [
        .obj [("name", .str "Pet"), ("description", .str "\n")],
        .obj [("name", .str "PetApi"), ("description", .str "")],
        .obj [("name", .str "Shop"), ("description", .str "open\n")]]),
      ("paths", .obj [
        ("/pets", .obj [("get", .obj [("tags", .arr [.str "Pet"])])]),
        ("/orders", .obj [("post", .obj [("tags", .arr [.str "Shop"]), ("summary", .str "\r\n"),
          ("description", .str "Order\na pet"), ("requestBody", .obj [])])])])] }

def descriptionsOf (api : Api) : List (String × String × List (Verb × List String)) :=
  api.controllers.map fun c => (c.name, c.description,
    c.methods.map fun m => (m.verb, m.description :: m.body.map (·.description)))

theorem descriptionsOf_silent : descriptionsOf (Api.ofDocument .standard silent) =
    [("PetApi", "", [(.get, [noDescription])]),
      ("ShopApi", "open", [(.post, ["Ordera pet", noDescription])])] := by decide +kernel

theorem controller_of_descriptions {api : Api} {name description : String}
    {methods : List (Verb × List String)}
    (member : (name, description, methods) ∈ descriptionsOf api) :
    ∃ c ∈ api.controllers, c.name = name ∧ c.description = description ∧
      c.methods.map (fun m => (m.verb, m.description :: m.body.map (·.description))) = methods := by
  obtain ⟨c, within, same⟩ := List.mem_map.mp member
  cases same
  exact ⟨c, within, rfl, rfl, rfl⟩

theorem descriptions_fall_back_silent :
    ∃ c ∈ (Api.ofDocument .standard silent).controllers, c.name = "ShopApi" ∧ c.description = "open" ∧
      FallsBack (tagTexts .standard silent.tags c.name) c.description ∧
      ∃ m ∈ c.methods, ∃ op ∈ silent.operations, op.verb = .post ∧ FallsBack op.texts m.description ∧
        ∃ request, (op.body.get? "requestBody").bind silent.target? = some request ∧
        ∃ p rest, m.body = p :: rest ∧ StandsFor .standard (ofRequestBody request) p ∧
          FallsBack (request.string "description").toList p.description := by
  have shop := List.mem_of_getElem? (congrArg (·[1]?) descriptionsOf_silent)
  obtain ⟨c, member, name, description, methods⟩ := controller_of_descriptions shop
  obtain ⟨_, visible, each⟩ := descriptions_fall_back .standard silent c member
  have last : lastText? (tagTexts .standard silent.tags c.name) = some "open\n" := by
    rw [name]
    decide +kernel
  have told := visible.mpr fun text found => by
    obtain rfl := Option.some.inj (last.symm.trans found)
    decide
  obtain ⟨m, within, post⟩ := List.mem_map.mp (methods ▸ List.mem_singleton_self _)
  obtain ⟨op, declared, _, same, described, body⟩ := each m within
  have verb : op.verb = .post := by
    have ofMethod : m.verb = op.verb := congrArg (·.verb) same
    rw [← ofMethod]
    exact congrArg (·.1) post
  have requests : ∀ op ∈ silent.operations, op.verb = .post →
      ((op.body.get? "requestBody").bind silent.target?).isSome = true := by decide +kernel
  obtain ⟨request, found⟩ := Option.isSome_iff_exists.mp (requests op declared verb)
  exact ⟨c, member, name, description, told, m, within, op, declared, verb, described, request, found,
    body rfl request found⟩

theorem silent_without_description :
    ∃ c ∈ (Api.ofDocument .standard silent).controllers,
      (∀ text ∈ tagTexts .standard silent.tags c.name, Text.singleLine text = "") ∧
      c.description = "" ∧ ¬FallsBack (tagTexts .standard silent.tags c.name) c.description := by
  have pet := List.mem_of_getElem? (congrArg (·[0]?) descriptionsOf_silent)
  obtain ⟨c, member, name, description, _⟩ := controller_of_descriptions pet
  refine ⟨c, member, ?_, description, fun fallsBack => fallsBack.filled description⟩
  rw [name]
  decide +kernel

end Controllers

end ClientGen
