import ClientGen.Number.Power

namespace ClientGen.Url.Punycode

def digit? (c : Char) : Option Nat :=
  if 'a' ≤ c ∧ c ≤ 'z' then some (c.toNat - 'a'.toNat)
  else if c.isDigit then some (c.toNat - '0'.toNat + 26)
  else none

-- A digit below the threshold of its position ends a number.
def threshold (position bias : Nat) : Nat := max 1 (min 26 (position - bias))

def adaptFrom (delta position : Nat) : Nat :=
  if 455 < delta then adaptFrom (delta / 35) (position + 36)
  else position + 36 * delta / (delta + 38)
termination_by delta
decreasing_by exact Nat.div_lt_self (by omega) (by omega)

def adapt (delta count : Nat) (first : Bool) : Nat :=
  let delta := if first then delta / 700 else delta / 2
  adaptFrom (delta + delta / count) 0

-- The characters so far, the last one that was inserted, the place after it, and the difference that is
-- being read with the weight and the position of its next digit.
structure Progress where
  done : List Char
  code : Nat
  place : Nat
  bias : Nat
  difference : Nat
  weight : Nat
  position : Nat
  deriving Inhabited

def Progress.start (ascii : List Char) : Progress :=
  { done := ascii, code := 0x80, place := 0, bias := 72, difference := 0, weight := 1, position := 36 }

def Progress.insert? (p : Progress) (difference : Nat) : Option Progress :=
  let count := p.done.length + 1
  let place := (p.place + difference) % count
  let code := p.code + (p.place + difference) / count
  if Nat.isValidChar code then
    some { Progress.start (p.done.take place ++ Char.ofNat code :: p.done.drop place) with
      code
      place := place + 1
      bias := adapt difference count (p.place == 0) }
  else none

-- Differences and weights beyond 32 bits belong to no character.
def Progress.digit? (p : Progress) (c : Char) : Option Progress := do
  let d ← Punycode.digit? c
  let difference := p.difference + d * p.weight
  let threshold := threshold p.position p.bias
  if twoTo 32 ≤ p.weight ∨ twoTo 32 ≤ p.place + difference then none
  else if d < threshold then p.insert? difference
  else
    pure { p with
      difference
      weight := p.weight * (36 - threshold)
      position := p.position + 36 }

def decode? (label : List Char) : Option (List Char) := do
  let digits := (label.reverse.takeWhile (· != '-')).reverse
  let ascii := label.take (label.length - digits.length - 1)
  let digits := if ascii.isEmpty then label else digits
  let p ← digits.foldlM Progress.digit? (Progress.start ascii)
  if p.position == 36 then pure p.done else none

end ClientGen.Url.Punycode
