import ClientGen.Json.Basic

namespace ClientGen.Json

def splitSlash : List Char → List (List Char)
  | [] => [[]]
  | '/' :: rest => [] :: splitSlash rest
  | c :: rest =>
    match splitSlash rest with
    | [] => [[c]]
    | part :: parts => (c :: part) :: parts

def unescapeTilde (digit image : Char) : List Char → List Char
  | '~' :: d :: rest =>
    if d = digit then image :: unescapeTilde digit image rest
    else '~' :: unescapeTilde digit image (d :: rest)
  | c :: rest => c :: unescapeTilde digit image rest
  | [] => []

def pointerToken (cs : List Char) : String :=
  String.ofList (unescapeTilde '0' '~' (unescapeTilde '1' '/' cs))

def index? (token : String) : Option Nat :=
  let cs := token.toList
  if cs.isEmpty ∨ !cs.all Char.isDigit ∨ (cs.head? = some '0' ∧ cs.length ≠ 1) then none
  else some (cs.foldl (fun n c => n * 10 + (c.toNat - '0'.toNat)) 0)

def child? (value : Json) (token : String) : Option Json :=
  match value with
  | .obj fields => fields.lookup token
  | .arr items => (index? token).bind fun i => items[i]?
  | _ => none

def descend? (value : Json) : List String → Option Json
  | [] => some value
  | token :: rest => (value.child? token).bind fun inner => inner.descend? rest

def pointer? (value : Json) (pointer : String) : Option Json :=
  match pointer.toList with
  | [] => some value
  | '/' :: rest => value.descend? ((splitSlash rest).map pointerToken)
  | _ => none

end ClientGen.Json
