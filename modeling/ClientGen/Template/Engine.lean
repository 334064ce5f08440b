import ClientGen.Template.Parser
import ClientGen.Template.Render
import ClientGen.Template.Standard

namespace ClientGen.Template

def baseName : String := "base.ts.tera"
def modelName : String := "model.ts.tera"
def controllerName : String := "controller.ts.tera"

def standardTemplates : List (String × List Node) :=
  [(baseName, Standard.base), (modelName, Standard.model), (controllerName, Standard.controller)]

def standardNames : List String := standardTemplates.map (·.1)

abbrev Writer := Fields → Option String

-- What becomes of the files of a directory, by the names of their templates, and of the standard templates
-- with further names; nothing if they cannot be loaded. What a template writes can depend on the time or on
-- chance, so an engine stands for one run only.
structure Engine where
  read? : List (String × ByteArray) → List String → Option (String → Writer)

namespace Engine

def readTemplate? (file : String × ByteArray) : Option (String × List Node) :=
  ((String.fromUTF8? file.2).bind parse?).map (file.1, ·)

-- An engine that always writes the same. It knows a part of the language, and no functions.
def standard : Engine where
  read? files missing := do
    let own ← files.mapM readTemplate?
    let templates := own ++ standardTemplates.filter fun (name, _) => missing.contains name
    pure fun name context => (templates.lookup name).bind (render? · context)

end Engine

end ClientGen.Template
