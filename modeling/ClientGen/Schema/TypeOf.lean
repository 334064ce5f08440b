import ClientGen.Api.Basic
import ClientGen.NameRules
import ClientGen.Schema.Form

namespace ClientGen.Schema

open Api

def typeOf (rules : NameRules) (fragment : Option Json) : TypeUse :=
  match _h : Form.of fragment with
  | .absent => .void
  | .alternatives first => typeOf rules first
  | .combined first => typeOf rules first
  | .carried inner => typeOf rules (some inner)
  | .reference target => .named (rules.ofReference target)
  | .literals values => .literals values
  | .list items => .list (typeOf rules items)
  | .primitive type => .plain type.text
  | .unknown => .unknown
termination_by sizeOf fragment
decreasing_by all_goals exact Form.sizeOf_next? (by rw [_h]; rfl)

end ClientGen.Schema
