import ClientGen.Proofs.Controllers.Identifiers
import ClientGen.Proofs.Controllers.Order
import ClientGen.Proofs.Output.ControllerText

namespace ClientGen

open Api Template Output

namespace Output.ControllerText

-- An argument as it is declared: its name, a question mark if it may be left out, and its type.
structure Argument where
  name : String
  mark : String
  type : String

def Argument.line (a : Argument) : String := .join ["\n    ", a.name, a.mark, ": ", a.type, ","]

def Argument.ofParameter (p : Parameter) : Argument := ⟨p.identifier, ControllerText.mark p, p.type.text⟩

def Argument.headers (m : Method) : Argument :=
  ⟨"headers", "?", .join ["\x7b", .join (m.header.map headerField), "\n    \x7d"]⟩

def Argument.config : Argument := ⟨"config", "", "AxiosRequestConfig = \x7b\x7d"⟩

def argumentsOf (m : Method) : List Argument :=
  m.parameters.map .ofParameter ++ (if m.header = [] then [] else [.headers m]) ++ [.config]

-- The identifiers of the combined parameters, then `headers` if there are any, then `config`.
def argumentNames (m : Method) : List String :=
  m.parameters.map (·.identifier) ++ (if m.header = [] then [] else ["headers"]) ++ ["config"]

variable {m : Method}

theorem names_argumentsOf (m : Method) : (argumentsOf m).map (·.name) = argumentNames m := by
  simp only [argumentsOf, argumentNames, List.map_append, List.map_map]
  split <;> rfl

theorem argument_line (p : Parameter) : argument p = (Argument.ofParameter p).line := by
  simp [argument, Argument.line, Argument.ofParameter]

theorem headers_line (m : Method) : headersArgument m =
    .join ((if m.header = [] then [] else [Argument.headers m]).map (·.line)) := by
  by_cases none : m.header = []
  · simp [headersArgument, none]
  · rw [← String.toList_inj]
    simp [headersArgument, none, Argument.line, Argument.headers]

theorem arguments_eq (m : Method) : arguments m = .join ((argumentsOf m).map (·.line)) := by
  have parameters : m.parameters.map argument = (m.parameters.map Argument.ofParameter).map (·.line) := by
    rw [List.map_map]
    exact List.map_congr_left fun p _ => argument_line p
  have config : "\n    config: AxiosRequestConfig = \x7b\x7d," = Argument.config.line := rfl
  rw [arguments, argumentsOf, parameters, headers_line, config]
  simp [String.join_append]

theorem nodup_argumentNames_iff (distinct : (m.parameters.map (·.identifier)).Nodup) :
    (argumentNames m).Nodup ↔ ∀ p ∈ m.parameters,
      (m.header ≠ [] → p.identifier ≠ "headers") ∧ p.identifier ≠ "config" := by
  unfold argumentNames
  by_cases none : m.header = [] <;> simp [none, List.nodup_append, distinct]

theorem argument_names_distinct_iff (rules : NameRules) (doc : Document) (folder : Folder)
    (setting : Setting) :
    ∀ c ∈ (Api.ofDocument rules doc).controllers,
      Library.standard.render (controllerPage folder setting c).template
        (controllerPage folder setting c).context = .ok (file setting requestUrl c) ∧
      ∀ m ∈ c.methods,
        arguments m = .join ((argumentsOf m).map (·.line)) ∧
        (argumentsOf m).map (·.name) = argumentNames m ∧
        ((argumentNames m).Nodup ↔ ∀ p ∈ m.parameters,
          (m.header ≠ [] → p.identifier ≠ "headers") ∧ p.identifier ≠ "config") := by
  intro c member
  refine ⟨standard_render folder setting c, ?_⟩
  intro m within
  obtain ⟨op, _, _, taken, rfl⟩ := Controllers.mem_methods_finished member within
  exact ⟨arguments_eq _, names_argumentsOf _, nodup_argumentNames_iff (op.nodup_combined _)⟩

def placed (name place : String) : Json :=
  .obj [("name", .str name), ("in", .str place), ("type", .str "string")]

-- The parameters of the first operation get the two names of the template. In the second one a header comes
-- first and keeps `config` to itself.
def reserved : Document :=
  { root := .obj [("paths", .obj [
      ("/search", .obj [("get", .obj [("tags", .arr [.str "Search"]), ("parameters",
        .arr [placed "config" "query", placed "headers" "query", placed "X-Trace" "header"])])]),
      ("/find", .obj [("get", .obj [("tags", .arr [.str "Find"]), ("parameters",
        .arr [placed "config" "header", placed "Config" "query"])])])])] }

def signatures (api : Api) : List (String × List String) :=
  (api.controllers.flatMap (·.methods)).map fun m => (m.url, argumentNames m)

theorem signatures_reserved : signatures (Api.ofDocument .standard reserved) =
    [("/search", ["config", "headers", "headers", "config"]),
      ("/find", ["config_1", "headers", "config"])] := by
  decide +kernel

theorem method_of_signature {api : Api} {url : String} {names : List String}
    (member : (url, names) ∈ signatures api) :
    ∃ c ∈ api.controllers, ∃ m ∈ c.methods, m.url = url ∧ argumentNames m = names := by
  obtain ⟨c, within, m, has, same⟩ := Controllers.exists_method member
  cases same
  exact ⟨c, within, m, has, rfl, rfl⟩

def reservedSetting : Setting := ⟨"/api", "search.json", reserved.info⟩

theorem argument_names_distinct_reserved :
    ∃ c ∈ (Api.ofDocument .standard reserved).controllers, ∃ m ∈ c.methods, m.url = "/find" ∧
      Library.standard.render (controllerPage ⟨"out"⟩ reservedSetting c).template
        (controllerPage ⟨"out"⟩ reservedSetting c).context = .ok (file reservedSetting requestUrl c) ∧
      (argumentsOf m).map (·.name) = ["config_1", "headers", "config"] ∧ (argumentNames m).Nodup ∧
      ∀ p ∈ m.parameters, (m.header ≠ [] → p.identifier ≠ "headers") ∧ p.identifier ≠ "config" := by
  have find := List.mem_of_getElem? (congrArg (·[1]?) signatures_reserved)
  obtain ⟨c, member, m, within, url, names⟩ := method_of_signature find
  obtain ⟨rendered, each⟩ := argument_names_distinct_iff .standard reserved ⟨"out"⟩ reservedSetting c member
  obtain ⟨_, listed, distinct⟩ := each m within
  have apart : (argumentNames m).Nodup := names ▸ by decide
  exact ⟨c, member, m, within, url, rendered, listed.trans names, apart, distinct.mp apart⟩

theorem reserved_declared_twice :
    ∃ c ∈ (Api.ofDocument .standard reserved).controllers, ∃ m ∈ c.methods,
      Library.standard.render (controllerPage ⟨"out"⟩ reservedSetting c).template
        (controllerPage ⟨"out"⟩ reservedSetting c).context = .ok (file reservedSetting requestUrl c) ∧
      arguments m = .join ((argumentsOf m).map (·.line)) ∧
      (argumentsOf m).map (·.name) = ["config", "headers", "headers", "config"] ∧
      ¬(argumentNames m).Nodup := by
  have search := List.mem_of_getElem? (congrArg (·[0]?) signatures_reserved)
  obtain ⟨c, member, m, within, _, names⟩ := method_of_signature search
  refine ⟨c, member, m, within, standard_render ⟨"out"⟩ reservedSetting c, arguments_eq m,
    (names_argumentsOf m).trans names, ?_⟩
  rw [names]
  decide

end Output.ControllerText

end ClientGen
