import ClientGen.Proofs.Action
import ClientGen.Proofs.Output.ControllerText
import Mathlib.Data.List.Nodup

namespace ClientGen

namespace Template

variable {scope : Scope} {root : String} {keys : List String} {v : Json} {n : Number} {left right : Expr}

theorem holds?_isNumber (found : scope.get? root keys = some v) :
    Expr.holds? scope (Standard.isNumber root keys) = some (isNumber v) := by
  simp [Standard.isNumber, Expr.holds?, Term.value?, lookup?_of, found, applyTest, isTrue]

theorem value?_whole (found : scope.get? root keys = some (.num n)) :
    Expr.value? scope (Standard.filtered root keys (.mk "int" [])) =
      some (.num (.int (wholePart n.toBinary64))) := by
  have whole : applyFilter "int" [] (.num n) = some (.num (.int (wholePart n.toBinary64))) := rfl
  simp [Standard.filtered, Expr.value?, Term.value?, lookup?_of, found, Filter.applyAll?, Expr.arguments?, whole]

theorem holds?_equal {a b : Number} (first : Expr.value? scope left = some (.num a))
    (second : Expr.value? scope right = some (.num b)) :
    Expr.holds? scope (Standard.equal left right) = some (a.toBinary64.sameValue b.toBinary64) := by
  simp [Standard.equal, Expr.holds?, first, second, areComparable, isNumber, equalValues]

end Template

namespace Output.ModelText

open Api Template

def title (setting : Setting) : String :=
  .join ["/* eslint-disable */\n// ", setting.info.title, " ", setting.info.version,
    "\n// Generated by apigen from ", setting.swaggerUrl]

def numeral (x : Binary64) : String :=
  if x.sameValue (.ofInt (wholePart x)) then toString (wholePart x) else x.text Binary64.plainLayout

-- A value that is no finite number stands for itself as a text.
def memberValue (item : EnumValue) : String :=
  match item.value.filter Binary64.isFinite with
  | some x => numeral x
  | none => .join ["'", item.literal, "'"]

def member (item : EnumValue) : String := .join ["\n  '", item.name, "' = ", memberValue item, ","]

def enumeration (e : Enum) : String :=
  .join ["\n/** ", e.description, " */\nexport enum ", e.name, " \x7b", .join (e.items.map member), "\n\x7d\n"]

def property (p : Property) : String :=
  .join ["\n  /** ", p.description, " */\n  '", p.name, "'", if p.nullable then "?" else "", ": ", p.type.text, ";"]

def extension (m : Model) : String :=
  if m.base.getD "" != "" then .join [" extends ", m.base.getD ""] else ""

def interface (m : Model) : String :=
  .join ["\n/** ", m.description, " */\nexport interface ", m.name, extension m, " \x7b",
    .join (m.properties.map property), "\n\x7d\n"]

def file (setting : Setting) (api : Api) : String :=
  .join [title setting, ". Do not edit.\n", .join (api.enums.map enumeration), .join (api.models.map interface), "\n"]

def helpers (setting : Setting) : String :=
  .join [title setting,
    ". Kept across regenerations unless asked otherwise.\n" ++
      "import axios, \x7b AxiosInstance, AxiosRequestConfig \x7d from 'axios';\n\n" ++
      "export const API_BASE = '",
    setting.apiBase,
    "';\n\n" ++
      "const instance: AxiosInstance = axios.create(\x7b baseURL: API_BASE \x7d);\n\n" ++
      "export function useAxios(): AxiosInstance \x7b\n" ++
      "  return instance;\n" ++
      "\x7d\n\n" ++
      "export async function request<T>(config: AxiosRequestConfig): Promise<T> \x7b\n" ++
      "  const response = await instance.request<T>(config);\n" ++
      "  return response.data;\n" ++
      "\x7d\n\n" ++
      "export default instance;\n"]

section Parts

variable {scope : Scope} {position count : Nat}

theorem title_renders {setting : Setting} (options : ∀ keys, scope.get? "options" keys = setting.toJson.descend? keys) :
    Renders scope Standard.titleLine (title setting) scope :=
  .step .text (.step (.str (options _)) (.step .text (.step (.str (options _)) (.step .text
    (.step (.str (options _)) .done)))))

theorem toJson_value (item : EnumValue) :
    item.toJson.descend? ["value"] =
      some (Json.ofOption (fun x => .num (.float x)) (item.value.filter Binary64.isFinite)) := by
  have field : item.toJson.descend? ["value"] = some (Json.ofOption floatToJson item.value) := rfl
  rw [field]
  cases item.value with
  | none => rfl
  | some x => by_cases finite : x.isFinite <;> simp [Json.ofOption, floatToJson, finite, Option.filter]

-- A number is compared with its whole part, which has been assigned before.
theorem numeral_renders {x : Binary64} (value : scope.get? "item" ["value"] = some (.num (.float x)))
    (whole : scope.get? "whole" [] = some (.num (.int (wholePart x)))) :
    Renders scope [Standard.enumValue] (numeral x) scope := by
  have found := (value?_look scope "item" ["value"]).trans value
  have assigned := (value?_look scope "whole" []).trans whole
  have compared := holds?_equal found assigned
  refine .taken (holds?_isNumber value) ?_
  cases same : x.sameValue (.ofInt (wholePart x)) with
  | true =>
    rw [numeral, if_pos same]
    exact .taken (compared.trans (congrArg some same)) (.print assigned)
  | false =>
    rw [numeral, if_neg (Bool.eq_false_iff.mp same)]
    exact .passed (compared.trans (congrArg some same)) (.otherwise (.print found))

theorem literal_renders {s : String} (value : scope.get? "item" ["value"] = some .null)
    (literal : scope.get? "item" ["literal"] = some (.str s)) :
    Renders scope [Standard.enumValue] (.join ["'", s, "'"]) scope :=
  .passed (holds?_isNumber value) (.otherwise (.step .text (.step (.str literal) (.step .text .done))))

theorem member_renders (item : EnumValue) :
    ∃ frame, Renders (scope.inTurn "item" item.toJson position count) Standard.enumItem (member item)
      { scope with loops := frame :: scope.loops } := by
  have value := toJson_value item
  cases finite : item.value.filter Binary64.isFinite with
  | none =>
    rw [finite] at value
    have before : (scope.inTurn "item" item.toJson position count).get? "item" ["value"] = some .null :=
      get?_inTurn (by decide) value
    rw [member, memberValue, finite]
    refine ⟨turn "item" item.toJson position count, ?_⟩
    exact .silent (.passed (holds?_isNumber before) (.otherwise (.nothing _))) (.step .text (.step (.str rfl)
      (.step .text (.step (literal_renders before rfl) (.step .text .done)))))
  | some x =>
    rw [finite] at value
    let assigned := (scope.inTurn "item" item.toJson position count).assign "whole" (.num (.int (wholePart x)))
    have before : (scope.inTurn "item" item.toJson position count).get? "item" ["value"] = some (.num (.float x)) :=
      get?_inTurn (by decide) value
    have later : assigned.get? "item" ["value"] = some (.num (.float x)) := by
      rw [← before]
      rfl
    rw [member, memberValue, finite]
    refine ⟨{ turn "item" item.toJson position count with locals := [("whole", .num (.int (wholePart x)))] }, ?_⟩
    exact .silent (.taken (holds?_isNumber before) (.set (value?_whole before))) (.step .text (.step (.str rfl)
      (.step .text (.step (numeral_renders later rfl) (.step .text .done)))))

theorem enumeration_renders (e : Enum) :
    Renders (scope.inTurn "enum" e.toJson position count) Standard.enumeration (enumeration e)
      (scope.inTurn "enum" e.toJson position count) := by
  refine .step .text (.step (.str rfl) (.step .text (.step (.str rfl) (.step .text (.step (.eachAssigning rfl rfl ?_)
    (.step .text .done))))))
  exact fun item _ _ _ => member_renders item

theorem property_renders (p : Property) :
    Renders (scope.inTurn "prop" p.toJson position count) Standard.property (property p)
      (scope.inTurn "prop" p.toJson position count) :=
  .step .text (.step (.str rfl) (.step .text (.step (.str rfl) (.step .text (.step (.given rfl fun _ => .text)
    (.step .text (.step (.str rfl) (.step .text .done))))))))

theorem extension_renders (m : Model) :
    Renders (scope.inTurn "model" m.toJson position count)
      [Standard.given (Standard.look "model" ["base_model"])
        [.text " extends ", Standard.value "model" ["base_model"]]]
      (extension m) (scope.inTurn "model" m.toJson position count) := by
  have found : (scope.inTurn "model" m.toJson position count).get? "model" ["base_model"] =
      some (Json.ofOption .str m.base) := get?_inTurn (by decide) rfl
  cases base : m.base with
  | none =>
    rw [base] at found
    rw [extension, base]
    exact .passed (holds?_look found) (.otherwise (.nothing _))
  | some name =>
    rw [base] at found
    rw [extension, base]
    exact .given (holds?_look found) fun _ => .step .text (.step (.str found) .done)

theorem interface_renders (m : Model) :
    Renders (scope.inTurn "model" m.toJson position count) Standard.interface (interface m)
      (scope.inTurn "model" m.toJson position count) := by
  refine .step .text (.step (.str rfl) (.step .text (.step (.str rfl) (.step (extension_renders m) (.step .text
    (.step (.each rfl rfl ?_) (.step .text .done)))))))
  exact fun p _ _ _ => property_renders p

end Parts

theorem model_render (folder : Folder) (setting : Setting) (api : Api) :
    Library.standard.render (modelPage folder setting api).template (modelPage folder setting api).context =
      .ok (file setting api) := by
  let context : Fields := [("api_data", api.toJson), ("options", setting.toJson)]
  have written : Renders ⟨[], [], context⟩ Standard.model (file setting api) ⟨[], [], context⟩ := by
    refine .part (title_renders fun _ => rfl) (.step .text (.step (.each rfl rfl ?_) (.step (.each rfl rfl ?_)
      (.step .text .done))))
    · exact fun e _ _ _ => enumeration_renders e
    · exact fun m _ _ _ => interface_renders m
  have found : Library.standard.template? modelName = some (render? Standard.model) := rfl
  simp only [modelPage, Library.render, found]
  rw [render?_of_renders written]

theorem base_render (folder : Folder) (setting : Setting) :
    Library.standard.render (basePage folder setting).template (basePage folder setting).context =
      .ok (helpers setting) := by
  let context : Fields := [("options", setting.toJson)]
  have written : Renders ⟨[], [], context⟩ Standard.base (helpers setting) ⟨[], [], context⟩ :=
    .part (title_renders fun _ => rfl) (.step .text (.step (.str rfl) (.step .text .done)))
  have found : Library.standard.template? baseName = some (render? Standard.base) := rfl
  simp only [basePage, Library.render, found]
  rw [render?_of_renders written]

end Output.ModelText

namespace Output

open Api Template

theorem failsOnDisk_removeIfThere (path : Path) : Action.FailsOnDisk (Folder.removeIfThere path) := by
  refine Action.failsOnDisk_bind (Action.failsOnDisk_ok fun disk => ⟨disk, rfl⟩) fun disk => ?_
  split
  · exact Action.failsOnDisk_attempt _
  · exact Action.failsOnDisk_pure _

theorem failsOnDisk_makeReady (folder : Folder) (mode : BaseMode) : Action.FailsOnDisk (folder.makeReady mode) := by
  have made : ∀ writeBase : Bool, Action.FailsOnDisk (do Action.makeDirectories folder.root; pure writeBase) :=
    fun writeBase => Action.failsOnDisk_bind (Action.failsOnDisk_attempt _) fun _ => Action.failsOnDisk_pure writeBase
  cases mode with
  | fresh => exact made true
  | regenerate => exact Action.failsOnDisk_bind (failsOnDisk_removeIfThere _) fun _ => made true
  | keep =>
    refine Action.failsOnDisk_bind (failsOnDisk_removeIfThere _) fun _ => ?_
    refine Action.failsOnDisk_bind (failsOnDisk_removeIfThere _) fun _ => ?_
    exact Action.failsOnDisk_bind (Action.failsOnDisk_ok fun disk => ⟨disk, rfl⟩) fun _ => made _

theorem failsOnDisk_writePage {library : Library} {page : Page} {text : String}
    (renders : library.render page.template page.context = .ok text) :
    Action.FailsOnDisk (writePage library page) := by
  have rendered : ∀ disk, ∃ a, ((Action.ofExcept (library.render page.template page.context)).run.run disk).1 =
      .ok a := by
    intro disk
    rw [renders]
    exact ⟨text, rfl⟩
  refine Action.failsOnDisk_bind (Action.failsOnDisk_ok rendered) fun _ => ?_
  unfold Action.writeBelow
  split
  · exact Action.failsOnDisk_bind (Action.failsOnDisk_attempt _) fun _ => Action.failsOnDisk_change _
  · exact Action.failsOnDisk_change _

theorem page_renders {folder : Folder} {setting : Setting} {api : Api} {withBase : Bool} {page : Page}
    (member : page ∈ pages folder setting api withBase) :
    ∃ text, Library.standard.render page.template page.context = .ok text := by
  rw [pages, List.mem_append, List.mem_cons, List.mem_map] at member
  rcases member with wanted | rfl | ⟨c, _, rfl⟩
  · split at wanted
    · rcases List.mem_singleton.mp wanted with rfl
      exact ⟨_, ModelText.base_render folder setting⟩
    · cases wanted
  · exact ⟨_, ModelText.model_render folder setting api⟩
  · exact ⟨_, ControllerText.standard_render folder setting c⟩

theorem standard_fails_on_disk (api : Api) (setting : Setting) :
    Library.standard.render "base.ts.tera" (.obj [("options", setting.toJson)]) = .ok (ModelText.helpers setting) ∧
    Library.standard.render "model.ts.tera" (.obj [("api_data", api.toJson), ("options", setting.toJson)]) =
      .ok (ModelText.file setting api) ∧
    (∀ c ∈ api.controllers,
      Library.standard.render "controller.ts.tera" (.obj [("controller", c.toJson), ("options", setting.toJson)]) =
        .ok (ControllerText.file setting ControllerText.requestUrl c)) ∧
    ∀ out mode disk failure, ((writeClient .standard api setting out mode).run.run disk).1 = .error failure →
      ∃ fault, failure = .disk fault := by
  refine ⟨ModelText.base_render ⟨""⟩ setting, ModelText.model_render ⟨""⟩ setting api,
    fun c _ => ControllerText.standard_render ⟨""⟩ setting c, ?_⟩
  intro out mode
  refine Action.failsOnDisk_bind (failsOnDisk_makeReady ⟨out⟩ mode) fun withBase => ?_
  refine Action.failsOnDisk_bind ?_ fun _ => Action.failsOnDisk_pure _
  refine Action.failsOnDisk_forM fun page member => ?_
  obtain ⟨text, renders⟩ := page_renders member
  exact failsOnDisk_writePage renders

-- A member of each kind, a base model and none, and a controller without methods or models.
def rich : Api :=
  { info := ⟨"Shelter", "", "2"⟩
    controllers := [⟨"PetApi", "Pets", [], []⟩]
    models := [⟨"Pet", "", some "Animal", [⟨"tag", "", .plain "string", true⟩], false⟩, ⟨"Animal", "", none, [], true⟩]
    enums := [⟨"Size", "", [⟨"whole", some (.ofNat 2), "2"⟩, ⟨"half", some (.finite false 1 (-1)), "0.5"⟩,
      ⟨"endless", some (.infinite false), "1e999"⟩, ⟨"text", none, "big"⟩]⟩] }

-- A file is in the way of the output directory.
def blocked : Disk :=
  { workingDirectory := ["work"], entries := [(["work"], .directory), (["work", "out"], .file "mine".toUTF8)] }

theorem standard_fails_on_disk_blocked :
    let setting : Setting := { apiBase := "/api", swaggerUrl := "api.json", info := rich.info }
    let run := (writeClient .standard rich setting "out" .fresh).run.run blocked
    (rich.enums.map fun e => e.items.map ModelText.memberValue) = [["2", "0.5", "'1e999'", "'big'"]] ∧
    (∃ c ∈ rich.controllers,
      Library.standard.render "controller.ts.tera" (.obj [("controller", c.toJson), ("options", setting.toJson)]) =
        .ok (ControllerText.file setting ControllerText.requestUrl c)) ∧
    run.1 = .error (.disk .alreadyExists) ∧ ∃ fault, Failure.disk .alreadyExists = .disk fault := by
  intro setting run
  obtain ⟨_, _, controllers, failures⟩ := standard_fails_on_disk rich setting
  have member : (⟨"PetApi", "Pets", [], []⟩ : Controller) ∈ rich.controllers := List.mem_singleton_self _
  have failed : run.1 = .error (.disk .alreadyExists) := by decide +kernel
  exact ⟨by decide +kernel, ⟨_, member, controllers _ member⟩, failed, failures "out" .fresh blocked _ failed⟩

end Output

end ClientGen
