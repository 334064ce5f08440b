import ClientGen.Text.Composition
import ClientGen.Text.Letter
import ClientGen.Text.Property.Joining
import ClientGen.Text.Property.Mark

namespace ClientGen.Url.Label

open Text Property

def nonJoiner : Char := Char.ofNat 0x200C

def joiner : Char := Char.ofNat 0x200D

def isMark (c : Char) : Bool := nonspacingMark.contains c.toNat || spacingMark.contains c.toNat

def isJoinedAcross (c : Char) : Bool := nonspacingMark.contains c.toNat || c.toNat == 0x1E94B

def joinsAfter (c : Char) : Bool := dualJoining.contains c.toNat || leftJoining.contains c.toNat

def joinsBefore (c : Char) : Bool := dualJoining.contains c.toNat || rightJoining.contains c.toNat

-- Whether a joiner has a use between the characters before it, the last one first, and those after it:
-- after a sign that takes a vowel away, or between letters that would join without it.
def isUseful (c : Char) (before after : List Char) : Bool :=
  before.head?.any (combiningClass · == viramaClass) ||
    (c == nonJoiner &&
      (before.dropWhile isJoinedAcross).head?.any joinsAfter &&
      (after.dropWhile isJoinedAcross).head?.any joinsBefore)

def joinersFit (before : List Char) : List Char → Bool
  | [] => true
  | c :: rest =>
    ((c != joiner && c != nonJoiner) || isUseful c before rest) && joinersFit (c :: before) rest

def isWellFormed (label : List Char) : Bool :=
  label.all isAscii || (!label.head?.any isMark && joinersFit [] label)

end ClientGen.Url.Label
