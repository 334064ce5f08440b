import ClientGen.Api.OfDocument
import ClientGen.Config.Basic
import ClientGen.Output.Pages
import ClientGen.Surroundings

namespace ClientGen

namespace Config

def api (rules : NameRules) (config : Config) (disk : Disk) (web : Web := Web.unreachable) :
    Except Failure Api := do
  config.check
  return Api.ofDocument rules (← Document.load disk config.swaggerUrl web)

def setting (config : Config) (api : Api) : Output.Setting :=
  { apiBase := config.apiBase, swaggerUrl := config.swaggerUrl, info := api.info }

-- Everything that can be found wrong before the first file is touched.
def sources (rules : NameRules) (config : Config) (around : Surroundings) (disk : Disk) :
    Except Failure (Api × Template.Library) := do
  let api ← config.api rules disk around.web
  return (api, ← Template.Library.load disk config.templateDirectory? around.engine)

end Config

structure Generated where
  directory : Path
  controllers : Nat
  models : Nat
  enums : Nat
  receipt : Output.Receipt
  deriving DecidableEq, Repr, Inhabited

def generateClient (rules : NameRules) (mode : Output.BaseMode) (config : Config)
    (around : Surroundings := .alone) : Action Generated := do
  let (api, library) ← Action.ofExcept (config.sources rules around (← get))
  let receipt ← Output.writeClient library api (config.setting api) config.outPath mode
  pure {
    directory := config.outPath
    controllers := api.controllers.length
    models := api.models.length
    enums := api.enums.length
    receipt }

end ClientGen
