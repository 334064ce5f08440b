import ClientGen.Text.Property.CombiningClass
import ClientGen.Text.Property.Composite

namespace ClientGen.Text

def combiningClass (c : Char) : Nat :=
  ((Property.combiningClasses.find? fun (first, last, _) =>
    first ≤ c.toNat && c.toNat ≤ last).map (·.2.2)).getD 0

namespace Hangul

def firstLead : Nat := 0x1100

def firstVowel : Nat := 0x1161

def beforeTails : Nat := 0x11A7

def firstSyllable : Nat := 0xAC00

def syllableCount : Nat := 19 * 21 * 28

def syllable? (first second : Nat) : Option Nat :=
  if firstLead ≤ first ∧ first < firstLead + 19 ∧ firstVowel ≤ second ∧ second < firstVowel + 21 then
    some (firstSyllable + ((first - firstLead) * 21 + (second - firstVowel)) * 28)
  else if firstSyllable ≤ first ∧ first < firstSyllable + syllableCount ∧
      (first - firstSyllable) % 28 = 0 ∧ beforeTails < second ∧ second < beforeTails + 28 then
    some (first + (second - beforeTails))
  else none

def parts? (code : Nat) : Option (Nat × Nat) :=
  if firstSyllable ≤ code ∧ code < firstSyllable + syllableCount then
    let place := code - firstSyllable
    if place % 28 = 0 then some (firstLead + place / 588, firstVowel + place / 28 % 21)
    else some (code - place % 28, beforeTails + place % 28)
  else none

end Hangul

def composite? (first second : Char) : Option Char :=
  match Hangul.syllable? first.toNat second.toNat with
  | some code => some (Char.ofNat code)
  | none =>
    (Property.composites.find? fun (a, b, _) => a == first.toNat && b == second.toNat).map
      fun (_, _, code) => Char.ofNat code

def parts? (c : Char) : Option (Char × Char) :=
  match Hangul.parts? c.toNat with
  | some (first, second) => some (Char.ofNat first, Char.ofNat second)
  | none =>
    (Property.composites.find? fun (_, _, code) => code == c.toNat).map
      fun (a, b, _) => (Char.ofNat a, Char.ofNat b)

def takeApart : Nat → Char → List Char
  | 0, c => [c]
  | depth + 1, c =>
    match parts? c with
    | some (first, second) => takeApart depth first ++ [second]
    | none => [c]

-- Puts a mark in front of marks, behind those of lower classes. A character of class zero stays.
def insertMark (c : Char) : List Char → List Char
  | [] => [c]
  | d :: rest =>
    if 0 < combiningClass d ∧ combiningClass d < combiningClass c then d :: insertMark c rest
    else c :: d :: rest

def orderMarks (cs : List Char) : List Char := cs.foldr insertMark []

-- Composes a character with what follows it. `passed` holds the marks between that stay as they are, the
-- last one first: a mark of the same class, or of a higher one, keeps a character from the letter.
def joinMarks (base : Char) (passed : List Char) : List Char → List Char
  | [] => base :: passed.reverse
  | c :: rest =>
    let isNear := passed.head?.all fun p => combiningClass p < combiningClass c
    match if isNear then composite? base c else none with
    | some whole => joinMarks whole passed rest
    | none =>
      if combiningClass c = 0 then base :: passed.reverse ++ joinMarks c [] rest
      else joinMarks base (c :: passed) rest

-- No character has parts on more than three levels.
def composed (cs : List Char) : List Char :=
  match orderMarks (cs.flatMap (takeApart 3)) with
  | [] => []
  | c :: rest => joinMarks c [] rest

end ClientGen.Text
