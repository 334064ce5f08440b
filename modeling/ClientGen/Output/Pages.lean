import ClientGen.Api.Encode
import ClientGen.Output.Folder
import ClientGen.Template.Library

namespace ClientGen.Output

open Template Api

structure Setting where
  apiBase : String
  swaggerUrl : String
  info : Info
  deriving DecidableEq, Repr, Inhabited

def Setting.toJson (setting : Setting) : Json :=
  .obj [
    ("api_base", .str setting.apiBase),
    ("swagger_url", .str setting.swaggerUrl),
    ("base_info", setting.info.toJson)]

structure Receipt where
  files : List Path
  baseWritten : Bool
  deriving DecidableEq, Repr, Inhabited

structure Page where
  path : Path
  template : String
  context : Json
  deriving Inhabited

def basePage (folder : Folder) (setting : Setting) : Page :=
  { path := folder.basePath
    template := Template.baseName
    context := .obj [("options", setting.toJson)] }

def modelPage (folder : Folder) (setting : Setting) (api : Api) : Page :=
  { path := folder.modelPath
    template := Template.modelName
    context := .obj [("api_data", api.toJson), ("options", setting.toJson)] }

def controllerPage (folder : Folder) (setting : Setting) (c : Controller) : Page :=
  { path := folder.controllerPath c.name
    template := Template.controllerName
    context := .obj [("controller", c.toJson), ("options", setting.toJson)] }

def pages (folder : Folder) (setting : Setting) (api : Api) (withBase : Bool) : List Page :=
  (if withBase then [basePage folder setting] else []) ++
    modelPage folder setting api :: api.controllers.map (controllerPage folder setting)

def writePage (library : Library) (page : Page) : Action Unit :=
  library.renderTo page.template page.context page.path

def writeClient (library : Library) (api : Api) (setting : Setting) (directory : Path)
    (mode : BaseMode) : Action Receipt := do
  let folder : Folder := ⟨directory⟩
  let baseWritten ← folder.makeReady mode
  let pages := pages folder setting api baseWritten
  pages.forM (writePage library)
  pure { files := pages.map (·.path), baseWritten }

end ClientGen.Output
