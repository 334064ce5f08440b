import ClientGen.Json.Basic
import ClientGen.Number.Word

namespace ClientGen.Number

structure Literal where
  negative : Bool
  whole : List Nat
  fraction : List Nat
  isFloat : Bool
  powerNegative : Bool
  power : Nat

def leading (value : Nat) : List Nat → Nat × Nat
  | [] => (value, 0)
  | d :: ds =>
    if Word.greatestUnsigned < value * 10 + d then (value, (d :: ds).length)
    else leading (value * 10 + d) ds

def leadingFraction (value taken : Nat) : List Nat → Nat × Nat
  | [] => (value, taken)
  | d :: ds =>
    if Word.greatestUnsigned < value * 10 + d then (value, taken)
    else leadingFraction (value * 10 + d) (taken + 1) ds

def powerOfTen (n : Nat) : Binary64 := Binary64.ofNat (tenTo n)

-- Division by a power of ten, in steps of the greatest finite power.
def divideByPower (x : Binary64) (n : Nat) : Binary64 :=
  if n ≤ 308 then x.scaleDown (powerOfTen n)
  else if x.isZero then x
  else divideByPower (x.scaleDown (powerOfTen 308)) (n - 308)
termination_by n

def scale? (value : Nat) (power : Int) : Option Binary64 :=
  let x := Binary64.ofNat value
  if power < 0 then some (divideByPower x power.natAbs)
  else if value = 0 then some x
  else if 308 < power then none
  else
    let y := x.scaleUp (powerOfTen power.natAbs)
    if y.isFinite then some y else none

def signed (negative : Bool) (x : Binary64) : Number := .float (if negative then x.negate else x)

def maxPower : Nat := twoTo 31 - 1

def Literal.value? (l : Literal) : Option Number :=
  let (value, left) := leading 0 l.whole
  if !l.isFloat && left = 0 then
    if !l.negative then some (.int value)
    else if value = 0 then some (.float (Binary64.zero true))
    else if value ≤ twoTo 63 then some (.int (-value))
    else some (signed true (Binary64.ofNat value))
  else
    let (value, taken) := leadingFraction value 0 l.fraction
    let power : Int := (left : Int) - taken
    if maxPower < l.power then
      if value ≠ 0 ∧ !l.powerNegative then none else some (signed l.negative (Binary64.zero false))
    else
      (scale? value (if l.powerNegative then power - l.power else power + l.power)).map
        (signed l.negative)

end ClientGen.Number
