import ClientGen.Config.Basic
import ClientGen.Json.Skim
import ClientGen.Yaml.Value

namespace ClientGen

def onlyField? (name : String) (fields : List (String × α)) : Option (Option α) :=
  match fields.filter fun (key, _) => key = name with
  | [] => some none
  | [(_, value)] => some (some value)
  | _ => none

namespace Config

def fieldNames : List String := ["swagger_url", "api_base", "out_path", "tpl_path"]

def readFields [Monad m] (text : α → m String) (optionalText : α → m (Option String))
    (fields : List (String × α)) : m (List (String × Option String)) :=
  (fields.filter fun (name, _) => fieldNames.contains name).mapM fun (name, value) => do
    if name = "tpl_path" then return (name, ← optionalText value)
    else return (name, some (← text value))

def ofTexts? (fields : List (String × Option String)) : Option Config := do
  let text := fun name => (onlyField? name fields).map fun value => value.join.getD ""
  return {
    swaggerUrl := ← text "swagger_url"
    apiBase := ← text "api_base"
    outPath := ← text "out_path"
    templatePath := (← onlyField? "tpl_path" fields).join }

def optionalText? : Json → Option (Option String)
  | .null => some none
  | .str s => some (some s)
  | _ => none

-- An entry out of an object, or out of a list of its first fields in order. `longLists` says whether a
-- list may have more items than there are fields.
def ofJson? (longLists : Bool) : Json → Option Config
  | .obj fields => (readFields Json.str? optionalText? fields).bind ofTexts?
  | .arr items =>
    if !longLists && fieldNames.length < items.length then none
    else (readFields Json.str? optionalText? (fieldNames.zip items)).bind ofTexts?
  | _ => none

def ofText? (cs : List Char) : Option Config := do
  let text := fun (cs : List Char) => (Json.readRaw? cs).bind Json.str?
  let optionalText := fun (cs : List Char) => (Json.readRaw? cs).bind optionalText?
  match ← Json.parts? cs with
  | .fields fields => (readFields text optionalText fields).bind ofTexts?
  | .items items =>
    if fieldNames.length < items.length then none
    else (readFields text optionalText (fieldNames.zip items)).bind ofTexts?
  | .single => none

end Config

namespace Batch

def ofItems? (items? : α → Option (List α)) (config? : α → Option Config) :
    Option α → Option Batch
  | none => some ⟨[]⟩
  | some value => ((items? value).bind fun items => items.mapM config?).map Batch.mk

def ofJson? (longLists : Bool) (value : Json) : Option Batch :=
  let batch? := ofItems? Json.arr? (Config.ofJson? longLists)
  match value with
  | .obj fields => (onlyField? "configs" fields).bind batch?
  | .arr items => if !longLists && 1 < items.length then none else batch? items.head?
  | _ => none

def itemsOf? (cs : List Char) : Option (List (List Char)) := do
  match ← Json.parts? cs with
  | .items items => pure items
  | _ => none

def ofText? (cs : List Char) : Option Batch := do
  let batch? := ofItems? itemsOf? Config.ofText?
  match ← Json.parts? cs with
  | .fields fields => (onlyField? "configs" fields).bind batch?
  | .items items => if 1 < items.length then none else batch? items.head?
  | .single => none

end Batch

namespace Yaml.Document

def fields? (document : Document) (node : Node) : Reading (List (String × Node)) := do
  match ← document.follow? node with
  | .mapping _ entries => entries.mapM fun (key, value) => return (← document.text? key, value)
  | .scalar _ "" true => pure []
  | _ => failure

def items? (document : Document) (node : Node) : Reading (List Node) := do
  match ← document.follow? node with
  | .sequence _ items => pure items
  | .scalar _ "" true => pure []
  | _ => failure

def optionalText? (document : Document) (node : Node) : Reading (Option String) := do
  match ← document.follow? node with
  | .scalar none text true =>
    pure (if text.isEmpty || Scalar.isNull text then none else some text)
  | .scalar (some tag) text true =>
    if tag = Scalar.coreTag "null" then
      if Scalar.isNull text then pure none else failure
    else pure (some text)
  | .scalar _ text _ => pure (some text)
  | _ => failure

def config? (document : Document) (node : Node) : Reading Config := do
  let fields ← Config.readFields document.text? document.optionalText? (← document.fields? node)
  match Config.ofTexts? fields with
  | some config => pure config
  | none => failure

def batchOf? (document : Document) : Reading Batch := do
  match onlyField? "configs" (← document.fields? document.root) with
  | none => failure
  | some none => pure ⟨[]⟩
  | some (some node) => return ⟨← (← document.items? node).mapM document.config?⟩

def batch? (document : Document) : Option Batch :=
  document.batchOf?.run' (100 * document.root.events)

end Yaml.Document

end ClientGen
