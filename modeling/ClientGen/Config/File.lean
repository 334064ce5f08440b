import ClientGen.Action
import ClientGen.Config.Decode
import ClientGen.Toml.Parser
import ClientGen.Yaml.Printer

namespace ClientGen.Batch

inductive Format where
  | yaml
  | toml
  | json
  deriving DecidableEq, Repr, Inhabited

def Format.ofPath? (path : Path) : Option Format :=
  match (Path.extension? path).map fun ending => String.ofList (ending.toList.map Char.toLower) with
  | some "yaml" => some .yaml
  | some "yml" => some .yaml
  | some "toml" => some .toml
  | some "json" => some .json
  | _ => none

def Format.failure : Format → Failure
  | .yaml => .yaml
  | .toml => .toml
  | .json => .json

def Format.read? (format : Format) (text : String) : Option Batch :=
  match format with
  | .yaml => (Yaml.read? text).bind Yaml.Document.batch?
  | .toml => (Toml.parse? text).bind (ofJson? true)
  | .json => ofText? text.toList

-- The file is read before the ending of its name matters.
def ofFile (disk : Disk) (path : Path) : Except Failure Batch := do
  let text ← (disk.read path).mapError .disk
  match Format.ofPath? path with
  | none => throw (.config (.unsupportedFormat path))
  | some format =>
    match format.read? text with
    | some batch => pure batch
    | none => throw format.failure

def entryText (config : Config) : String :=
  let lines := config.fields.map fun (key, value) => key ++ ": " ++ Yaml.Scalar.write 4 value
  match lines with
  | [] => ""
  | first :: others => "- " ++ first ++ String.join (others.map ("  " ++ ·))

def text (batch : Batch) : String :=
  if batch.configs.isEmpty then "configs: []\n"
  else "configs:\n" ++ String.join (batch.configs.map entryText)

def save (batch : Batch) (path : Path) : Action Unit := Action.write path batch.text

end ClientGen.Batch
