import ClientGen.Text.Letter
import ClientGen.Text.Property.CaseMapping

namespace ClientGen.Text

def lowerChar (c : Char) : List Char :=
  if isAscii c then [c.toLower]
  else match Property.toLower.image? c.toNat with
    | some code => [Char.ofNat code]
    | none => match Property.toLowerSeveral.lookup c.toNat with
      | some codes => codes.map Char.ofNat
      | none => [c]

def upperChar (c : Char) : List Char :=
  if isAscii c then [c.toUpper]
  else match Property.toUpper.image? c.toNat with
    | some code => [Char.ofNat code]
    | none => match Property.toUpperSeveral.lookup c.toNat with
      | some codes => codes.map Char.ofNat
      | none => [c]

def meetsCased (cs : List Char) : Bool :=
  ((cs.dropWhile isCaseIgnorable).head?.map isCased).getD false

-- `before` holds the characters already passed, the nearest first.
def lowerFrom (before : List Char) : List Char → List Char
  | [] => []
  | c :: rest =>
    let image :=
      if c == 'Σ' then
        [if meetsCased before && !meetsCased rest then 'ς' else 'σ']
      else lowerChar c
    image ++ lowerFrom (c :: before) rest

def lower (cs : List Char) : List Char := lowerFrom [] cs

def capitalize : List Char → List Char
  | [] => []
  | c :: rest => upperChar c ++ rest

end ClientGen.Text
