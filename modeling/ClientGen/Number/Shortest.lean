import ClientGen.Number.Binary64

namespace ClientGen.Binary64

structure Interval where
  value : Nat
  low : Nat
  high : Nat
  den : Nat
  closed : Bool

def interval (mantissa : Nat) (exponent : Int) : Interval :=
  let below := if mantissa = twoTo 52 ∧ leastExponent < exponent then 1 else 2
  let scale := if exponent < 0 then 1 else twoTo exponent.natAbs
  let den := if exponent < 0 then twoTo exponent.natAbs else 1
  { value := 4 * mantissa * scale
    low := (4 * mantissa - below) * scale
    high := (4 * mantissa + 2) * scale
    den := 4 * den
    closed := mantissa % 2 = 0 }

def Interval.holds (i : Interval) (digits : Nat) (power : Int) : Bool :=
  let up := if power < 0 then 1 else tenTo power.natAbs
  let down := if power < 0 then tenTo power.natAbs else 1
  let point := digits * up * i.den
  let low := i.low * down
  let high := i.high * down
  if i.closed then low ≤ point && point ≤ high else low < point && point < high

def Interval.magnitude (i : Interval) : Int :=
  if i.den ≤ i.value then ((Nat.toDigits 10 (i.value / i.den)).length : Int)
  else 1 - ((Nat.toDigits 10 (i.den / i.value)).length : Int) +
    (if tenTo ((Nat.toDigits 10 (i.den / i.value)).length - 1) * i.value = i.den then 1 else 0)

def Interval.neighbours (i : Interval) (power : Int) : List Nat :=
  let up := if power < 0 then 1 else tenTo power.natAbs
  let down := if power < 0 then tenTo power.natAbs else 1
  let num := i.value * down
  let den := i.den * up
  let q := num / den
  let r := num % den
  if 2 * r < den ∨ (2 * r = den ∧ q % 2 = 0) then [q, q + 1] else [q + 1, q]

def dropZeros : Nat → Nat → Int → Nat × Int
  | 0, digits, power => (digits, power)
  | fuel + 1, digits, power =>
    if digits % 10 = 0 ∧ digits ≠ 0 then dropZeros fuel (digits / 10) (power + 1) else (digits, power)

-- The first hit on the grids of `n`, `n + 1`, … digits. Seventeen digits always suffice.
def Interval.firstHit (i : Interval) (magnitude : Int) : Nat → Nat → Nat × Int
  | 0, _ => (0, 0)
  | fuel + 1, n =>
    let power := magnitude - n
    match (i.neighbours power).find? (i.holds · power) with
    | some digits => dropZeros 20 digits power
    | none => firstHit i magnitude fuel (n + 1)

def shortest (mantissa : Nat) (exponent : Int) : Nat × Int :=
  if mantissa = 0 then (0, 0)
  else
    let i := interval mantissa exponent
    i.firstHit i.magnitude 17 1

end ClientGen.Binary64
