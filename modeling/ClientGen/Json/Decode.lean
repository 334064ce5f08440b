import ClientGen.Json.Basic

namespace ClientGen.Json

def record? (names : List String) : Json → Option (String → Option Json)
  | .obj fields => some fun name => fields.lookup name
  | .arr items =>
    if items.length = names.length then some fun name => (names.zip items).lookup name else none
  | _ => none

def listOf? (read : Json → Option α) (value : Json) : Option (List α) :=
  value.arr?.bind fun items => items.mapM read

def optional? (read : Json → Option α) : Option Json → Option (Option α)
  | none => some none
  | some .null => some none
  | some value => (read value).map some

def oneOf? (name : α → String) (all : List α) : Json → Option α
  | .str s => all.find? (name · == s)
  | .obj [(s, .null)] => all.find? (name · == s)
  | _ => none

def float? : Json → Option Binary64
  | .num n => some n.toBinary64
  | _ => none

end ClientGen.Json
