import ClientGen.Text.Property.Alphabetic
import ClientGen.Text.Property.Blank
import ClientGen.Text.Property.LetterCase
import ClientGen.Text.Property.Numeric

namespace ClientGen.Text

def isAscii (c : Char) : Bool := c.toNat < 128

def isAlphabetic (c : Char) : Bool :=
  if isAscii c then c.isAlpha else Property.alphabetic.contains c.toNat

def isNumeric (c : Char) : Bool :=
  if isAscii c then c.isDigit else Property.numeric.contains c.toNat

def isUppercase (c : Char) : Bool :=
  if isAscii c then c.isUpper else Property.uppercase.contains c.toNat

def isLowercase (c : Char) : Bool :=
  if isAscii c then c.isLower else Property.lowercase.contains c.toNat

def isAlphanumeric (c : Char) : Bool := isAlphabetic c || isNumeric c

def isBlank (c : Char) : Bool :=
  if isAscii c then c == ' ' || ('\t' ≤ c && c ≤ '\r') else Property.blank.contains c.toNat

def isCased (c : Char) : Bool := Property.cased.contains c.toNat

def isCaseIgnorable (c : Char) : Bool := Property.caseIgnorable.contains c.toNat

theorem isAlphanumeric_underscore : isAlphanumeric '_' = false := by decide

end ClientGen.Text
