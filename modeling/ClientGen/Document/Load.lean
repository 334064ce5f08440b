import ClientGen.Action
import ClientGen.Document.Basic
import ClientGen.Json.Parser
import ClientGen.Url.Check
import ClientGen.Yaml.Value

namespace ClientGen

-- What a server sends: the code of its status, the words that show it, and the text or why that cannot be
-- read.
structure Response where
  code : Nat
  status : String
  text : Except String String

def Response.isSuccess (response : Response) : Bool := 200 ≤ response.code && response.code < 300

-- What comes of a request for a location. Without a response, it is why there is none.
abbrev Web := String → Except String Response

def Web.unreachable : Web := fun _ => .error "no network"

namespace Document

def value? (text : String) : Option Json := (Json.parse? text).or (Yaml.parse? text)

def ofText (text : String) : Except DocumentFault Document :=
  match value? text with
  | none => .error .unreadable
  | some (.obj fields) => .ok ⟨.obj fields⟩
  | some _ => .error .notAnObject

def ofFile (disk : Disk) (path : Path) : Except Failure Document := do
  let text ← (disk.read path).mapError .disk
  (ofText text).mapError (.document .file path)

-- A location that names no host is refused before anything is sent.
def ofWeb (web : Web) (location : String) : Except Failure Document := do
  (Url.check location).mapError fun fault => .fetch location (.badUrl fault)
  let response ← (web location).mapError fun reason => .fetch location (.broken reason)
  if !response.isSuccess then throw (.fetch location (.status response.status))
  let text ← response.text.mapError fun reason => .fetch location (.broken reason)
  (ofText text).mapError (.document .web location)

def load (disk : Disk) (location : String) (web : Web := Web.unreachable) : Except Failure Document :=
  if Url.isWeb location then ofWeb web location else ofFile disk location

end Document

end ClientGen
