import ClientGen.Number.Power

namespace ClientGen

-- `finite negative mantissa exponent` stands for `± mantissa · 2 ^ exponent`. In numbers made by
-- `Binary64.round` the mantissa has 53 bits, or fewer with the least exponent `-1074`.
inductive Binary64 where
  | finite (negative : Bool) (mantissa : Nat) (exponent : Int)
  | infinite (negative : Bool)
  | nan
  deriving DecidableEq, Repr, Inhabited

namespace Binary64

def leastExponent : Int := -1074

def greatestExponent : Int := 971

def zero (negative : Bool) : Binary64 := .finite negative 0 leastExponent

def scaled (num den : Nat) (shift : Int) : Nat × Nat :=
  if shift < 0 then (num, den * twoTo shift.natAbs) else (num * twoTo shift.natAbs, den)

def roundQuotient (num den : Nat) : Nat :=
  let q := num / den
  let r := num % den
  if 2 * r < den then q
  else if den < 2 * r then q + 1
  else if q % 2 = 0 then q else q + 1

-- The exponent with which `num / den` has a mantissa of 53 bits, but at least `leastExponent`.
def exponentOf (num den : Nat) : Int :=
  let guess : Int := (num.log2 : Int) - den.log2 - 52
  let (n, d) := scaled num den (-guess)
  max (if n < twoTo 52 * d then guess - 1 else guess) leastExponent

def round (negative : Bool) (num den : Nat) : Binary64 :=
  if num = 0 then zero negative
  else
    let e := exponentOf num den
    let (n, d) := scaled num den (-e)
    let m := roundQuotient n d
    let (m, e) := if m = twoTo 53 then (twoTo 52, e + 1) else (m, e)
    if greatestExponent < e then .infinite negative else .finite negative m e

def ofNat (n : Nat) : Binary64 := round false n 1

def ofInt (i : Int) : Binary64 := round (i < 0) i.natAbs 1

-- `± digits · 10 ^ power`, rounded once. Powers far outside the range of finite values are decided
-- without computing them.
def ofDecimal (negative : Bool) (digits : Nat) (power : Int) : Binary64 :=
  let width : Int := (Nat.toDigits 10 digits).length
  if digits = 0 then zero negative
  else if 310 < power + width then .infinite negative
  else if power + width < -330 then zero negative
  else if power < 0 then round negative digits (tenTo power.natAbs)
  else round negative (digits * tenTo power.natAbs) 1

def isFinite : Binary64 → Bool
  | .finite .. => true
  | _ => false

def isZero : Binary64 → Bool
  | .finite _ m _ => m == 0
  | _ => false

def negate : Binary64 → Binary64
  | .finite s m e => .finite (!s) m e
  | .infinite s => .infinite (!s)
  | .nan => .nan

def fraction (mantissa : Nat) (exponent : Int) : Nat × Nat := scaled mantissa 1 exponent

def scaleUp (a b : Binary64) : Binary64 :=
  match a, b with
  | .finite s m e, .finite _ n f =>
    let (num, den) := fraction (m * n) (e + f)
    round s num den
  | a, _ => a

def scaleDown (a b : Binary64) : Binary64 :=
  match a, b with
  | .finite s m e, .finite _ n f =>
    let (num, den) := scaled m n (e - f)
    round s num den
  | a, _ => a

-- Equality of values: both zeros are equal, and nothing equals `nan`.
def sameValue : Binary64 → Binary64 → Bool
  | .finite s m e, .finite t n f => (m == 0 && n == 0) || (s == t && m == n && e == f)
  | .infinite s, .infinite t => s == t
  | _, _ => false

def truncateWithin (least greatest : Int) : Binary64 → Int
  | .finite s m e =>
    let (num, den) := fraction m e
    let whole : Int := (num / den : Nat)
    max least (min greatest (if s then -whole else whole))
  | .infinite s => if s then least else greatest
  | .nan => 0

end Binary64

end ClientGen
