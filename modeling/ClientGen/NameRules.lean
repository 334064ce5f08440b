import ClientGen.Text.Segment
import ClientGen.Text.Words

namespace ClientGen

structure NameRules where
  controller : String → String
  method : String → String
  model : String → String

namespace NameRules

-- A tag gets the ending `Api` unless it has these letters somewhere.
def ofTag (tag : String) : String := if Text.contains tag "Api" then tag else tag ++ "Api"

def ofPath (path : String) : String := Text.camelCase (Text.lastSegment path)

def isTypePunctuation (c : Char) : Bool := c == '.' || c == ',' || c == '[' || c == ']'

def ofSchema (name : String) : String :=
  String.ofList (name.toList.filter fun c => !isTypePunctuation c)

def standard : NameRules :=
  { controller := ofTag, method := ofPath, model := ofSchema }

instance : Inhabited NameRules := ⟨standard⟩

def ofReference (rules : NameRules) (reference : String) : String :=
  rules.model (Text.lastSegment reference)

end NameRules

end ClientGen
