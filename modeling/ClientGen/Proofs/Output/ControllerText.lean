import ClientGen.Output.Pages
import ClientGen.Proofs.Template.Rendering

namespace ClientGen

namespace Template

variable {scope : Scope} {root s : String} {keys : List String} {v : Json}

theorem keysOf?_names (scope : Scope) (keys : List String) : keysOf? scope (keys.map .key) = some keys := by
  induction keys with
  | nil => rfl
  | cons key rest ih => simp only [List.map_cons, keysOf?, Step.keys?, ih, List.singleton_append]

theorem lookup?_of (scope : Scope) (root : String) (keys : List String) :
    scope.lookup? (.of root keys) = scope.get? root keys := by
  rw [Scope.lookup?, Lookup.of, keysOf?_names]
  rfl

theorem value?_look (scope : Scope) (root : String) (keys : List String) :
    Expr.value? scope (Standard.look root keys) = scope.get? root keys := by
  simp only [Standard.look, Expr.value?, Term.value?, lookup?_of, Filter.applyAll?, Bool.false_and,
    Bool.false_eq_true, if_false]
  cases scope.get? root keys <;> rfl

theorem holds?_look (found : scope.get? root keys = some v) :
    Expr.holds? scope (Standard.look root keys) = some (isTrue v) := by
  simp only [Standard.look, Expr.holds?, lookup?_of, found, Filter.applyAll?, Bool.false_eq_true, if_false]

theorem value?_around (found : scope.get? root keys = some (.str s)) (front back : String) :
    Expr.value? scope (Standard.around front root keys back) = some (.str (.join [front, s, back])) := by
  have joined : "".intercalate [front, s, back] = String.join [front, s, back] := by
    simp
  simp [Standard.around, Expr.value?, Term.value?, Part.text?, lookup?_of, found, plainText?,
    Filter.applyAll?, joined]

theorem value?_joined {ss : List String} (found : scope.get? root keys = some (.arr (ss.map .str))) :
    Expr.value? scope (Standard.filtered root keys
      (.mk "join" [("sep", .mk (.literal (.text ", ")) [] false)])) =
      some (.str (", ".intercalate ss)) := by
  have texts : (ss.map Json.str).map valueText = ss := by
    rw [List.map_map]
    exact List.map_id ss
  have join : applyFilter "join" [("sep", .str ", ")] (.arr (ss.map .str)) =
      some (.str (", ".intercalate ss)) := by
    rw [← congrArg (", ".intercalate ·) texts]
    rfl
  simp [Standard.filtered, Expr.value?, Term.value?, lookup?_of, found, Filter.applyAll?,
    Expr.arguments?, Literal.value, Fields.put, join]

theorem value?_replace {part image : String} (found : scope.get? root keys = some (.str s))
    (partFound : scope.get? "placeholder" [] = some (.str part))
    (imageFound : scope.get? "interpolation" [] = some (.str image)) :
    Expr.value? scope (Standard.filtered root keys (.mk "replace"
      [("from", Standard.look "placeholder" []), ("to", Standard.look "interpolation" [])])) =
      some (.str (replaceAll s part image)) := by
  have replaced : applyFilter "replace" ((Fields.put [] "to" (.str image)).put "from" (.str part))
      (.str s) = some (.str (replaceAll s part image)) := rfl
  simp [Standard.filtered, Expr.value?, Term.value?, lookup?_of, found, Filter.applyAll?, Expr.arguments?,
    value?_look, partFound, imageFound, replaced]

theorem Renders.str (found : scope.get? root keys = some (.str s)) :
    Renders scope [Standard.value root keys] s scope :=
  .print ((value?_look scope root keys).trans found)

end Template

namespace Output.ControllerText

open Api Template

def mark (p : Parameter) : String := if !p.required then "?" else ""

def commentLine (p : Parameter) : String := .join ["\n   * @param ", p.identifier, " ", p.description]

def comment (m : Method) : String :=
  .join ["\n\n  /**\n   * ", m.description, .join (m.parameters.map commentLine), "\n   */"]

def argument (p : Parameter) : String :=
  .join ["\n    ", p.identifier, mark p, ": ", p.type.text, ","]

def headerField (p : Parameter) : String :=
  .join ["\n      '", p.name, "'", mark p, ": ", p.type.text, ";"]

def headersArgument (m : Method) : String :=
  if !m.header.isEmpty then
    .join ["\n    headers?: \x7b", .join (m.header.map headerField), "\n    \x7d,"]
  else ""

def arguments (m : Method) : String :=
  .join [.join (m.parameters.map argument), headersArgument m,
    "\n    config: AxiosRequestConfig = \x7b\x7d,"]

def formField (p : Parameter) : String :=
  .join ["\n    if (", p.identifier, " !== undefined) form.append('", p.name, "', ", p.identifier,
    " as any);"]

def form (m : Method) : String :=
  if !m.formData.isEmpty then
    .join ["\n    const form = new FormData();", .join (m.formData.map formField)]
  else ""

def queryField (p : Parameter) : String := .join ["\n        '", p.name, "': ", p.identifier, ","]

def query (m : Method) : String :=
  if !m.query.isEmpty then
    .join ["\n      params: \x7b", .join (m.query.map queryField), "\n      \x7d,"]
  else ""

-- The first body parameter is sent, or else the form.
def data (m : Method) : String :=
  match m.body with
  | p :: _ => .join ["\n      data: ", p.identifier, ","]
  | [] => if !m.formData.isEmpty then "\n      data: form," else ""

def headers (m : Method) : String :=
  if !m.header.isEmpty then "\n      headers: \x7b ...config.headers, ...headers \x7d," else ""

def request (url : String) (m : Method) : String :=
  .join ["\n    return request<", m.response.text, ">(\x7b\n      ...config,\n      url: `", url,
    "`,\n      method: '", m.verb.name, "',", query m, data m, headers m, "\n    \x7d);"]

def method (url : String) (m : Method) : String :=
  .join [comment m, "\n  static async ", m.name, "(", arguments m, "\n  ): Promise<", m.response.text,
    "> \x7b", form m, request url m, "\n  \x7d"]

def imports (c : Controller) : String :=
  if !c.imports.isEmpty then
    .join ["\nimport \x7b ", ", ".intercalate c.imports, " \x7d from '../model';"]
  else ""

def file (setting : Setting) (urlOf : Method → String) (c : Controller) : String :=
  .join ["/* eslint-disable */\n// Generated by apigen from ", setting.swaggerUrl,
    ". Do not edit.\n" ++
      "import \x7b AxiosRequestConfig \x7d from 'axios';\n" ++
      "import \x7b request \x7d from '../base/useAxios';",
    imports c, "\n\n/** ", c.description, " */\nexport class ", c.name, " \x7b",
    .join (c.methods.map fun m => method (urlOf m) m), "\n\x7d\n"]

def filled (url : String) (p : Parameter) : String :=
  replaceAll url (.join ["\x7b", p.name, "\x7d"]) (.join ["$\x7b", p.identifier, "\x7d"])

-- The location that a method requests: one path parameter after another is filled in.
def requestUrl (m : Method) : String := m.path.foldl filled m.url

section Method

variable {context : Fields} {url : String} {m : Method} {position count : Nat}

-- Inside the loop over the methods, after the location has been put together.
def inMethod (context : Fields) (url : String) (m : Method) (position count : Nat) : Scope :=
  (⟨[], [("url", .str url)], context⟩ : Scope).inTurn "method" m.toJson position count

def RendersHere (context : Fields) (url : String) (m : Method) (position count : Nat)
    (nodes : List Node) (text : String) : Prop :=
  Renders (inMethod context url m position count) nodes text (inMethod context url m position count)

theorem holds?_parameters {scope : Scope} {root : String} {keys : List String} {ps : List Parameter}
    (found : scope.get? root keys = some (.arr (ps.map Parameter.toJson))) :
    Expr.holds? scope (Standard.look root keys) = some (!ps.isEmpty) := by
  rw [holds?_look found, Template.isTrue, List.isEmpty_map]

theorem mark_renders (scope : Scope) (p : Parameter) (i n : Nat) :
    Renders (scope.inTurn "p" p.toJson i n) [Standard.optionalMark "p"] (mark p)
      (scope.inTurn "p" p.toJson i n) :=
  .given rfl fun _ => .text

theorem comment_renders :
    RendersHere context url m position count Standard.methodComment (comment m) := by
  refine .step .text (.step (.str rfl) (.step (.each rfl rfl ?_) (.step .text .done)))
  intro p _ i n
  exact .step .text (.step (.str rfl) (.step .text (.step (.str rfl) .done)))

theorem arguments_renders :
    RendersHere context url m position count Standard.methodArguments (arguments m) := by
  refine .step (.each rfl rfl ?_) (.step (.given (holds?_parameters rfl) ?_) (.step .text .done))
  · intro p _ i n
    exact .step .text (.step (.str rfl) (.step (mark_renders _ p i n) (.step .text (.step (.str rfl)
      (.step .text .done)))))
  · intro _
    refine .step .text (.step (.each rfl rfl ?_) (.step .text .done))
    intro p _ i n
    exact .step .text (.step (.str rfl) (.step .text (.step (mark_renders _ p i n) (.step .text
      (.step (.str rfl) (.step .text .done))))))

theorem form_renders : RendersHere context url m position count [Standard.methodForm] (form m) := by
  refine .given (holds?_parameters rfl) fun _ => .step .text (.part (.each rfl rfl ?_) .done)
  intro p _ i n
  exact .step .text (.step (.str rfl) (.step .text (.step (.str rfl) (.step .text (.step (.str rfl)
    (.step .text .done))))))

theorem request_renders :
    RendersHere context url m position count Standard.methodRequest (request url m) := by
  refine .step .text (.step (.str rfl) (.step .text (.step (.str rfl) (.step .text (.step (.str rfl)
    (.step .text (.step (show RendersHere context url m position count _ _ from ?query)
    (.step (show RendersHere context url m position count _ _ from ?data)
    (.step (show RendersHere context url m position count _ _ from ?headers)
    (.step .text .done))))))))))
  case query =>
    refine .given (holds?_parameters rfl) fun _ => .step .text (.step (.each rfl rfl ?_) (.step .text .done))
    intro p _ i n
    exact .step .text (.step (.str rfl) (.step .text (.step (.str rfl) (.step .text .done))))
  case data =>
    have sent : ∀ ps, m.body = ps →
        Expr.holds? (inMethod context url m position count)
          (Standard.look "method" ["parameters_body"]) = some (!ps.isEmpty) := by
      rintro ps rfl
      exact holds?_parameters rfl
    rw [data]
    cases body : m.body with
    | nil => exact .passed (sent [] body) (.given (holds?_parameters rfl) fun _ => .text)
    | cons p rest =>
      have first : m.toJson.descend? ["parameters_body", "0", "camel_case_name"] =
          some (.str p.identifier) := by
        simp only [Method.toJson]
        rw [body]
        rfl
      exact .taken (sent _ body)
        (.step .text (.step (.str (get?_inTurn (by decide) first)) (.step .text .done)))
  case headers => exact .given (holds?_parameters rfl) fun _ => .text

end Method

section Location

variable {context globals : Fields} {m : Method} {position count : Nat}

-- The assignments of the template itself are at most that of the location.
def OnlyUrl (globals : Fields) : Prop := globals = [] ∨ ∃ url, globals = [("url", .str url)]

theorem put_url (only : OnlyUrl globals) (url : String) :
    globals.put "url" (.str url) = [("url", .str url)] := by
  obtain rfl | ⟨before, rfl⟩ := only <;> rfl

def fillIn (globals : Fields) (p : Parameter) : Fields :=
  match globals with
  | [(name, .str url)] => [(name, .str (filled url p))]
  | _ => globals

theorem foldl_fillIn (url : String) (ps : List Parameter) :
    ps.foldl fillIn [("url", .str url)] = [("url", .str (ps.foldl filled url))] := by
  induction ps generalizing url with
  | nil => rfl
  | cons p rest ih => exact ih (filled url p)

theorem fillIn_renders (p : Parameter) :
    TurnRenders ((⟨[], globals, context⟩ : Scope).inTurn "method" m.toJson position count)
      [.set "placeholder" false (Standard.around "\x7b" "p" ["name"] "\x7d"),
       .set "interpolation" false (Standard.around "$\x7b" "p" ["camel_case_name"] "\x7d"),
       .set "url" true (Standard.filtered "url" []
         (.mk "replace"
           [("from", Standard.look "placeholder" []), ("to", Standard.look "interpolation" [])]))]
      "p" Parameter.toJson (fun _ _ => "") fillIn (∃ url, · = [("url", .str url)]) p := by
  rintro i n _ ⟨url, rfl⟩
  refine ⟨⟨filled url p, rfl⟩, { turn "p" p.toJson i n with
    locals := [("placeholder", .str (.join ["\x7b", p.name, "\x7d"])),
      ("interpolation", .str (.join ["$\x7b", p.identifier, "\x7d"]))] }, ?_⟩
  exact .silent (.set (value?_around rfl _ _)) (.silent (.set (value?_around rfl _ _))
    (.setGlobal (value?_replace rfl rfl rfl)))

theorem location_renders (only : OnlyUrl globals) :
    Renders ((⟨[], globals, context⟩ : Scope).inTurn "method" m.toJson position count)
      Standard.methodUrl "" (inMethod context (requestUrl m) m position count) := by
  have start : Renders ((⟨[], globals, context⟩ : Scope).inTurn "method" m.toJson position count)
      [.set "url" true (Standard.look "method" ["url"])] ""
      (inMethod context m.url m position count) := by
    have assigned : ((⟨[], globals, context⟩ : Scope).inTurn "method" m.toJson position
        count).assignGlobal "url" (.str m.url) = inMethod context m.url m position count := by
      simp only [Scope.assignGlobal, Scope.inTurn, inMethod, put_url only]
    exact assigned ▸ .setGlobal rfl
  have final : (inMethod context m.url m position count).withGlobals
      (m.path.foldl fillIn [("url", .str m.url)]) = inMethod context (requestUrl m) m position count := by
    rw [foldl_fillIn]
    rfl
  rw [← final]
  exact .silent start (.foldSilent rfl rfl ⟨m.url, rfl⟩ fun p _ => fillIn_renders p)

theorem method_renders (only : OnlyUrl globals) :
    Renders ((⟨[], globals, context⟩ : Scope).inTurn "method" m.toJson position count)
      Standard.method (method (requestUrl m) m) (inMethod context (requestUrl m) m position count) := by
  have parts : Standard.method = Standard.methodUrl ++ (Standard.methodComment ++
      (.text "\n  static async " :: Standard.value "method" ["name"] :: .text "(" ::
        (Standard.methodArguments ++ (.text "\n  ): Promise<" ::
          Standard.value "method" ["response", "rendered"] :: .text "> \x7b" ::
            Standard.methodForm :: (Standard.methodRequest ++ [.text "\n  \x7d"]))))) := rfl
  rw [parts]
  exact .silent (location_renders only) (.part comment_renders (.step .text (.step (.str rfl)
    (.step .text (.part arguments_renders (.step .text (.step (.str rfl) (.step .text
      (.step form_renders (.part request_renders (.step .text .done)))))))))))

end Location

-- After the loop over the methods, the location of the last one stays assigned.
theorem methods_render (context : Fields) (c : Controller)
    (found : (⟨[], [], context⟩ : Scope).get? "controller" ["methods"] =
      some (.arr (c.methods.map Method.toJson))) :
    ∃ after, Renders ⟨[], [], context⟩
      [Standard.each "method" (Standard.look "controller" ["methods"]) Standard.method]
      (.join (c.methods.map fun m => method (requestUrl m) m)) after := by
  have turns : ∀ m ∈ c.methods, TurnRenders ⟨[], [], context⟩ Standard.method "method" Method.toJson
      (fun _ m => method (requestUrl m) m) (fun _ m => [("url", .str (requestUrl m))]) OnlyUrl m :=
    fun m _ _ _ _ only => ⟨.inr ⟨_, rfl⟩, _, method_renders only⟩
  have run := Renders.fold ((value?_look ..).trans found) rfl (.inl rfl) turns
  rw [written_same] at run
  exact ⟨_, run⟩

theorem standard_render (folder : Folder) (setting : Setting) (c : Controller) :
    Library.standard.render (controllerPage folder setting c).template
      (controllerPage folder setting c).context = .ok (file setting requestUrl c) := by
  let context : Fields := [("controller", c.toJson), ("options", setting.toJson)]
  have listed : Expr.holds? ⟨[], [], context⟩ (Standard.look "controller" ["import_models"]) =
      some (!c.imports.isEmpty) := by
    rw [holds?_look rfl, Template.isTrue, List.isEmpty_map]
  obtain ⟨after, methods⟩ := methods_render context c rfl
  have written : Renders ⟨[], [], context⟩ Standard.controller (file setting requestUrl c) after := by
    refine .step .text (.step (.str rfl) (.step .text (.step (.given listed ?_) (.step .text
      (.step (.str rfl) (.step .text (.step (.str rfl) (.step .text (.step methods
        (.step .text .done))))))))))
    exact fun _ => .step .text (.step (.print (value?_joined rfl)) (.step .text .done))
  have found : Library.standard.template? controllerName = some (render? Standard.controller) := rfl
  simp only [controllerPage, Library.render, found]
  rw [render?_of_renders written]

end Output.ControllerText

end ClientGen
