namespace ClientGen.Text.Utf8

def isTail (b : UInt8) : Bool := 0x80 ≤ b && b ≤ 0xBF

-- For the first byte of a character of several bytes: the bounds of the second byte, the number of bytes
-- after that, and the bits of the first byte.
def lead? (b : UInt8) : Option (UInt8 × UInt8 × Nat × Nat) :=
  if 0xC2 ≤ b && b ≤ 0xDF then some (0x80, 0xBF, 0, b.toNat % 32)
  else if b == 0xE0 then some (0xA0, 0xBF, 1, 0)
  else if b == 0xED then some (0x80, 0x9F, 1, 13)
  else if 0xE1 ≤ b && b ≤ 0xEF then some (0x80, 0xBF, 1, b.toNat % 16)
  else if b == 0xF0 then some (0x90, 0xBF, 2, 0)
  else if 0xF1 ≤ b && b ≤ 0xF3 then some (0x80, 0xBF, 2, b.toNat % 8)
  else if b == 0xF4 then some (0x80, 0x8F, 2, 4)
  else none

def replacement : Char := Char.ofNat 0xFFFD

-- A character that is not finished: the bounds of its next byte, the number of bytes after that, and its
-- bits so far.
abbrev Pending := UInt8 × UInt8 × Nat × Nat

def startByte (b : UInt8) : List Char × Option Pending :=
  if b < 0x80 then ([Char.ofNat b.toNat], none)
  else match lead? b with
    | some pending => ([], some pending)
    | none => ([replacement], none)

def nextByte (b : UInt8) : Pending → List Char × Option Pending
  | (low, high, more, bits) =>
    if low ≤ b && b ≤ high then
      let bits := bits * 64 + b.toNat % 64
      match more with
      | 0 => ([Char.ofNat bits], none)
      | more + 1 => ([], some (0x80, 0xBF, more, bits))
    else
      let (cs, pending) := startByte b
      (replacement :: cs, pending)

def decodeFrom : Option Pending → List UInt8 → List Char
  | none, [] => []
  | some _, [] => [replacement]
  | pending, b :: rest =>
    let (cs, pending) := match pending with
      | none => startByte b
      | some pending => nextByte b pending
    cs ++ decodeFrom pending rest

def decodeLossy (bytes : ByteArray) : String := String.ofList (decodeFrom none bytes.toList)

end ClientGen.Text.Utf8
