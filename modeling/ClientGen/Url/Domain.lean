import ClientGen.Number.Radix
import ClientGen.Text.Case
import ClientGen.Text.Composition
import ClientGen.Text.Segment
import ClientGen.Text.Utf8
import ClientGen.Url.Alphabet
import ClientGen.Url.Direction
import ClientGen.Url.Label
import ClientGen.Url.Punycode
import ClientGen.Url.Spelling

namespace ClientGen.Url.Domain

open Text

def isDelimiter (c : Char) : Bool :=
  c.toNat ≤ 0x20 || c == '\x7f' || "%#/:<>?@[\\]^|".toList.contains c

def standsForItself (c : Char) : Bool := isAscii c || standing.contains c.toNat

def form? (c : Char) : Option (List Char) :=
  if isAscii c then some [c.toLower]
  else if standing.contains c.toNat then some [c]
  else if unseen.contains c.toNat then some []
  else match spelling? c with
    | some cs => some cs
    | none => if (lowerChar c).all standsForItself then some (lowerChar c) else none

def hexByte? (b : UInt8) : Option Nat := Radix.nat? 16 [Char.ofNat b.toNat]

def percentDecode : List UInt8 → List UInt8
  | [] => []
  | [a] => [a]
  | [a, b] => [a, b]
  | a :: b :: c :: rest =>
    match hexByte? b, hexByte? c with
    | some high, some low =>
      if a == 0x25 then UInt8.ofNat (high * 16 + low) :: percentDecode rest
      else a :: percentDecode (b :: c :: rest)
    | _, _ => a :: percentDecode (b :: c :: rest)

def longestText : Nat := 1000

def longestAscii : Nat := 2000

-- The label that a label in its usual form stands for. The text of a label in ASCII form has to need
-- that form, and to be in its usual form already.
def shown? : List Char → Option (List Char)
  | 'x' :: 'n' :: '-' :: '-' :: ascii => do
    let label ← if ascii.all isAscii && ascii.length ≤ longestAscii then Punycode.decode? ascii else none
    if label.all isAscii || label.any (fun c => form? c != some [c]) || composed label != label then none
    else pure label
  | label => if label.all isAscii || label.length ≤ longestText then some label else none

def ofHost? (host : List Char) : Option (List Char) := do
  let bytes := percentDecode (String.ofList host).toUTF8.toList
  let forms ← (Utf8.decodeFrom none bytes).mapM form?
  let domain := composed forms.flatten
  let labels ← (pieces '.' domain).mapM shown?
  if !domain.any isDelimiter && labels.all Label.isWellFormed && Direction.namesAgree labels then
    pure domain
  else none

end ClientGen.Url.Domain
