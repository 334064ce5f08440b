import ClientGen.Proofs.Controllers.Order
import ClientGen.Proofs.Controllers.Parameters
import ClientGen.Proofs.Output.ControllerText
import ClientGen.Proofs.Template.Replacement
import ClientGen.Proofs.Text.CamelCase

namespace ClientGen

open Api Template Output

section Identifiers

theorem braceless_of_wordlike {name : List Char} (wordlike : ∀ c ∈ name, Text.Wordlike c) :
    Braceless name :=
  ⟨fun member => absurd (wordlike _ member rfl) (by decide),
    fun member => absurd (wordlike _ member rfl) (by decide)⟩

theorem identifierOf_braceless (name : String) : Braceless (identifierOf name).toList := by
  unfold identifierOf
  split <;> exact braceless_of_wordlike (Text.wordlike_camelCase _)

theorem numberedName_braceless {name : String} (plain : Braceless name.toList) (k : Nat) :
    Braceless (numberedName name k).toList := by
  have digits : ∀ c ∈ (toString k).toList, c ≠ '{' ∧ c ≠ '}' := by
    intro c member
    rw [Nat.toString_eq_repr, Nat.toList_repr] at member
    have digit := Nat.isDigit_of_mem_toDigits (by decide) (by decide) member
    constructor <;> rintro rfl <;> cases digit
  simp only [Braceless, numberedName, String.toList_append, List.mem_append, not_or]
  exact ⟨⟨⟨plain.1, by decide⟩, fun member => (digits _ member).1 rfl⟩,
    ⟨⟨plain.2, by decide⟩, fun member => (digits _ member).2 rfl⟩⟩

theorem freshName_braceless {name : String} (plain : Braceless name.toList) (taken : List String) :
    Braceless (freshName name taken).toList := by
  obtain same | ⟨k, _, same⟩ := freshName_form name taken
  · rwa [same]
  · exact same ▸ numberedName_braceless plain k

theorem identifier_braceless {rules : NameRules} {doc : Document} {op : Operation} {p : Parameter}
    (member : p ∈ operationParameters rules doc op) : Braceless p.identifier.toList := by
  obtain ⟨used, same⟩ := identifier_of_mem member
  exact same ▸ freshName_braceless (identifierOf_braceless _) used

end Identifiers

namespace Api.Method

def fills (m : Method) : List (List Char × List Char) :=
  m.path.map fun p => (p.name.toList, p.identifier.toList)

-- The location with all path parameters filled in at once.
def filledUrl (m : Method) : String := .ofList (substitute (interpolated m.fills) m.url.toList)

end Api.Method

namespace Output.ControllerText

theorem filled_toList (url : String) (p : Parameter) : (filled url p).toList =
    substitute [(p.name.toList, interpolation p.identifier.toList)] url.toList := by
  have image : (String.join ["$\x7b", p.identifier, "\x7d"]).toList =
      interpolation p.identifier.toList := by
    simp [interpolation, placeholder]
  rw [filled, replaceAll_placeholder, image]

theorem requestUrl_toList {m : Method} (plain : ∀ fill ∈ m.fills, Braceless fill.1 ∧ Braceless fill.2) :
    (requestUrl m).toList = substitute (chained m.fills) m.url.toList := by
  rw [← foldl_substitute plain, requestUrl, Method.fills, List.foldl_map]
  generalize m.url = url
  induction m.path generalizing url with
  | nil => rfl
  | cons p rest ih => rw [List.foldl_cons, ih, filled_toList, List.foldl_cons]

theorem requestUrl_eq_iff {m : Method} (distinct : (m.path.map (·.name)).Nodup)
    (plain : ∀ p ∈ m.path, Braceless p.name.toList ∧ Braceless p.identifier.toList) :
    requestUrl m = m.filledUrl ↔ m.path.Pairwise fun p q =>
      placeholder p.name.toList <:+: m.url.toList → p.identifier ≠ q.name := by
  have fillsPlain : ∀ fill ∈ m.fills, Braceless fill.1 ∧ Braceless fill.2 := by
    rw [Method.fills, List.forall_mem_map]
    exact plain
  have fillsDistinct : (m.fills.map Prod.fst).Nodup := by
    have lists : m.fills.map Prod.fst = (m.path.map (·.name)).map String.toList := by
      simp only [Method.fills, List.map_map, Function.comp_def]
    rw [lists]
    exact List.Pairwise.map _ (fun _ _ different same => different (String.toList_inj.mp same)) distinct
  rw [← String.toList_inj, requestUrl_toList fillsPlain, Method.filledUrl, String.toList_ofList,
    substitute_chained_iff (fun fill member => (fillsPlain fill member).1) fillsDistinct, Method.fills,
    List.pairwise_map]
  simp only [ne_eq, String.toList_inj]

theorem request_locations (rules : NameRules) (doc : Document) (folder : Folder) (setting : Setting) :
    ∀ c ∈ (Api.ofDocument rules doc).controllers,
      Library.standard.render (controllerPage folder setting c).template
        (controllerPage folder setting c).context = .ok (file setting requestUrl c) ∧
      ∀ m ∈ c.methods, (m.path.map (·.name)).Nodup → (∀ p ∈ m.path, Braceless p.name.toList) →
        (requestUrl m = m.filledUrl ↔ m.path.Pairwise fun p q =>
          placeholder p.name.toList <:+: m.url.toList → p.identifier ≠ q.name) := by
  intro c member
  refine ⟨standard_render folder setting c, ?_⟩
  intro m within distinct plain
  obtain ⟨op, _, _, _, rfl⟩ := Controllers.mem_methods_finished member within
  refine requestUrl_eq_iff distinct fun p listed => ⟨plain p listed, ?_⟩
  exact identifier_braceless (List.mem_filter.mp listed).1

def pathParameter (name : String) : Json :=
  .obj [("name", .str name), ("in", .str "path"), ("required", .bool true),
    ("schema", .obj [("type", .str "integer")])]

-- Both names have the same camel case, which is the second name itself. The two paths take them in either
-- order.
def crossing : Document :=
  { root := .obj [
      ("openapi", .str "3.0.0"),
      ("paths", .obj [
        ("/users/\x7buser_id\x7d/\x7buserId\x7d", .obj [("get", .obj [
          ("tags", .arr [.str "User"]),
          ("parameters", .arr [pathParameter "user_id", pathParameter "userId"])])]),
        ("/teams/\x7buserId\x7d/\x7buser_id\x7d", .obj [("get", .obj [
          ("tags", .arr [.str "Team"]),
          ("parameters", .arr [pathParameter "userId", pathParameter "user_id"])])])])] }

-- Each method of a description with its path names, the location that it requests and the location with
-- all names filled in at once.
def locations (api : Api) : List (List String × String × String) :=
  (api.controllers.flatMap (·.methods)).map fun m => (m.path.map (·.name), requestUrl m, m.filledUrl)

theorem locations_crossing : locations (Api.ofDocument .standard crossing) =
    [(["user_id", "userId"], "/users/$$\x7buserId_1\x7d/$\x7buserId_1\x7d",
        "/users/$\x7buserId\x7d/$\x7buserId_1\x7d"),
      (["userId", "user_id"], "/teams/$\x7buserId\x7d/$\x7buserId_1\x7d",
        "/teams/$\x7buserId\x7d/$\x7buserId_1\x7d")] := by
  decide +kernel

theorem method_of_location {api : Api} {names : List String} {requested filled : String}
    (member : (names, requested, filled) ∈ locations api) :
    ∃ c ∈ api.controllers, ∃ m ∈ c.methods,
      m.path.map (·.name) = names ∧ requestUrl m = requested ∧ m.filledUrl = filled := by
  obtain ⟨c, within, m, has, same⟩ := Controllers.exists_method member
  cases same
  exact ⟨c, within, m, has, rfl, rfl, rfl⟩

theorem braceless_of_names {m : Method} {names : List String} (listed : m.path.map (·.name) = names)
    (plain : ∀ name ∈ names, Braceless name.toList) : ∀ p ∈ m.path, Braceless p.name.toList := by
  intro p member
  exact plain p.name (listed ▸ List.mem_map_of_mem member)

def crossingSetting : Setting := ⟨"/api", "users.json", crossing.info⟩

theorem request_locations_crossing :
    ∃ c ∈ (Api.ofDocument .standard crossing).controllers, ∃ m ∈ c.methods,
      (m.path.map (·.name)).Nodup ∧ (∀ p ∈ m.path, Braceless p.name.toList) ∧
      Library.standard.render (controllerPage ⟨"out"⟩ crossingSetting c).template
        (controllerPage ⟨"out"⟩ crossingSetting c).context = .ok (file crossingSetting requestUrl c) ∧
      requestUrl m = m.filledUrl ∧ m.path.Pairwise fun p q =>
        placeholder p.name.toList <:+: m.url.toList → p.identifier ≠ q.name := by
  have second := List.mem_of_getElem? (congrArg (·[1]?) locations_crossing)
  obtain ⟨c, member, m, within, names, requested, filled⟩ := method_of_location second
  have distinct : (m.path.map (·.name)).Nodup := names ▸ by decide
  have plain := braceless_of_names names (by decide)
  obtain ⟨rendered, each⟩ := request_locations .standard crossing ⟨"out"⟩ crossingSetting c member
  have same : requestUrl m = m.filledUrl := requested.trans filled.symm
  exact ⟨c, member, m, within, distinct, plain, rendered, same, (each m within distinct plain).mp same⟩

-- In the order of the first path the second name is found in what the first has been replaced by.
theorem crossing_filled_twice :
    ∃ c ∈ (Api.ofDocument .standard crossing).controllers, ∃ m ∈ c.methods,
      (m.path.map (·.name)).Nodup ∧ (∀ p ∈ m.path, Braceless p.name.toList) ∧
      Library.standard.render (controllerPage ⟨"out"⟩ crossingSetting c).template
        (controllerPage ⟨"out"⟩ crossingSetting c).context = .ok (file crossingSetting requestUrl c) ∧
      requestUrl m = "/users/$$\x7buserId_1\x7d/$\x7buserId_1\x7d" ∧
      m.filledUrl = "/users/$\x7buserId\x7d/$\x7buserId_1\x7d" ∧ requestUrl m ≠ m.filledUrl := by
  have first := List.mem_of_getElem? (congrArg (·[0]?) locations_crossing)
  obtain ⟨c, member, m, within, names, requested, filled⟩ := method_of_location first
  have distinct : (m.path.map (·.name)).Nodup := names ▸ by decide
  have plain := braceless_of_names names (by decide)
  have different : requestUrl m ≠ m.filledUrl := by
    rw [requested, filled]
    decide
  exact ⟨c, member, m, within, distinct, plain, standard_render ⟨"out"⟩ crossingSetting c, requested,
    filled, different⟩

end Output.ControllerText

end ClientGen
