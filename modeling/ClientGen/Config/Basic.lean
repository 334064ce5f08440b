import ClientGen.Failure
import ClientGen.Json.Basic
import ClientGen.Text.Trim
import ClientGen.Url.Check

namespace ClientGen

-- `templatePath` is a directory with templates in place of the standard ones.
structure Config where
  swaggerUrl : String
  apiBase : String
  outPath : Path
  templatePath : Option Path
  deriving DecidableEq, Repr, Inhabited

structure Batch where
  configs : List Config
  deriving DecidableEq, Repr, Inhabited

namespace Config

def required (config : Config) : List (String × String) :=
  [("swagger_url", config.swaggerUrl), ("api_base", config.apiBase), ("out_path", config.outPath)]

def missing (config : Config) : List String :=
  (config.required.filter fun (_, value) => Text.isBlankText value).map (·.1)

def check (config : Config) : Except Failure Unit :=
  if !config.missing.isEmpty then .error (.config (.missingFields config.missing))
  else if Url.isWeb config.swaggerUrl then
    (Url.check config.swaggerUrl).mapError fun fault =>
      .config (.invalidUrl config.swaggerUrl fault)
  else .ok ()

-- The directory of templates. A blank one counts as none.
def templateDirectory? (config : Config) : Option Path :=
  config.templatePath.filter fun path => !Text.isBlankText path

def fields (config : Config) : List (String × String) :=
  config.required ++ (config.templatePath.map (("tpl_path", ·))).toList

def toJson (config : Config) : Json := .obj (config.fields.map fun (key, value) => (key, .str value))

end Config

def Batch.toJson (batch : Batch) : Json := .obj [("configs", .arr (batch.configs.map Config.toJson))]

end ClientGen
