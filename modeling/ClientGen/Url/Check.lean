import ClientGen.Failure
import ClientGen.Url.Domain
import ClientGen.Url.Ipv4
import ClientGen.Url.Ipv6

namespace ClientGen.Url

def isWeb (location : String) : Bool :=
  location.startsWith "http://" || location.startsWith "https://"

-- Controls and spaces do not count at the ends of a location, tabs and line breaks nowhere.
def visible (location : List Char) : List Char :=
  let isEdge := fun (c : Char) => c.toNat ≤ 0x20
  let inner := ((location.dropWhile isEdge).reverse.dropWhile isEdge).reverse
  inner.filter fun c => c != '\t' && c != '\n' && c != '\r'

-- A backslash counts as a slash.
def isSlash (c : Char) : Bool := c == '/' || c == '\\'

def authority (location : List Char) : List Char :=
  let afterScheme := ((visible location).dropWhile (· != ':')).drop 1
  (afterScheme.dropWhile isSlash).takeWhile fun c => !isSlash c && c != '?' && c != '#'

-- A host ends at the first colon outside brackets.
def splitHost (inBrackets : Bool) : List Char → List Char × List Char
  | [] => ([], [])
  | c :: rest =>
    if c == ':' && !inBrackets then ([], c :: rest)
    else
      let (host, port) := splitHost (c == '[' || (inBrackets && c != ']')) rest
      (c :: host, port)

def checkHost : List Char → Except UrlFault Unit
  | [] => .error .emptyHost
  | '[' :: address =>
    if address.getLast? == some ']' && Ipv6.isAddress address.dropLast then .ok ()
    else .error .invalidIpv6
  | host =>
    match Domain.ofHost? host with
    | none => .error .invalidDomain
    | some [] => .error .emptyHost
    | some domain =>
      if Ipv4.endsInNumber domain && !Ipv4.isAddress domain then .error .invalidIpv4 else .ok ()

def checkPort (cs : List Char) : Except UrlFault Unit :=
  let digits := cs.drop 1
  if digits.all Char.isDigit &&
      Json.numeral (digits.map fun c => c.toNat - '0'.toNat) < 65536 then .ok ()
  else .error .invalidPort

-- The user's name and password end at the last sign `@` before the path.
def check (location : String) : Except UrlFault Unit := do
  let server := ((authority location.toList).reverse.takeWhile (· != '@')).reverse
  let (host, port) := splitHost false server
  checkHost host
  checkPort port

end ClientGen.Url
