import ClientGen.Document.Load
import ClientGen.Template.Library

namespace ClientGen

-- What an entry meets outside of the disk when it is run. A question is answered with yes or no, or there are
-- causes why it is not.
structure Surroundings where
  web : Web
  ask : String → Except (List String) Bool
  engine : Template.Engine

-- Without a network and without a terminal.
def Surroundings.alone : Surroundings :=
  { web := Web.unreachable
    ask := fun _ => .error ["IO error: not a terminal", "not a terminal"]
    engine := .standard }

end ClientGen
