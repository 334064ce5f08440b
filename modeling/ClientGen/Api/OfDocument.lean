import ClientGen.Controllers.Filing
import ClientGen.Schema.Declarations

namespace ClientGen

open Api

def markExchanged (controllers : List Controller) (m : Model) : Model :=
  { m with isExchanged := controllers.any fun c => c.imports.contains m.name }

def Api.ofDocument (rules : NameRules) (doc : Document) : Api :=
  let declarations := Schema.declarations rules doc
  let controllers := Controllers.arrange (Controllers.ofDocument rules doc)
  { info := doc.info
    controllers
    models := declarations.models.map (markExchanged controllers)
    enums := declarations.enums }

end ClientGen
