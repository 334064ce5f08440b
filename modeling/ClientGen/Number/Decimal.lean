import ClientGen.Number.Shortest

namespace ClientGen.Binary64

structure DecimalLayout where
  -- Magnitudes from `10 ^ lowest` on are written without a power of ten.
  lowest : Int
  -- Magnitudes from `10 ^ highest` on are written with a power of ten.
  highest : Int
  -- Whether a whole number ends in `.0`.
  fraction : Bool
  -- Whether a number outside these bounds is written with a power of ten at all.
  exponents : Bool

-- The layout of numbers in documents: `1.0`, `0.00001`, `1e+16`, `1e-7`.
def documentLayout : DecimalLayout :=
  { lowest := -5, highest := 16, fraction := true, exponents := true }

-- The layout of numbers printed by templates: `1`, `0.0000001`, never a power of ten.
def plainLayout : DecimalLayout :=
  { lowest := 0, highest := 0, fraction := false, exponents := false }

def digitChars (n : Nat) : List Char := Nat.toDigits 10 n

def positional (fraction : Bool) (digits : Nat) (power : Int) : List Char :=
  let ds := digitChars digits
  let point : Int := ds.length + power
  if 0 ≤ power then
    ds ++ List.replicate power.natAbs '0' ++ (if fraction then ['.', '0'] else [])
  else if 0 < point then ds.take point.natAbs ++ '.' :: ds.drop point.natAbs
  else '0' :: '.' :: List.replicate point.natAbs '0' ++ ds

def scientific (digits : Nat) (power : Int) : List Char :=
  let ds := digitChars digits
  let e : Int := ds.length - 1 + power
  let rest := ds.drop 1
  ds.take 1 ++ (if rest.isEmpty then [] else '.' :: rest) ++
    'e' :: (if e < 0 then '-' else '+') :: digitChars e.natAbs

def text (layout : DecimalLayout) : Binary64 → String
  | .finite negative mantissa exponent =>
    let (digits, power) := shortest mantissa exponent
    let place : Int := (digitChars digits).length - 1 + power
    let body :=
      if mantissa = 0 then '0' :: (if layout.fraction then ['.', '0'] else [])
      else if layout.exponents && (place < layout.lowest || layout.highest ≤ place) then
        scientific digits power
      else positional layout.fraction digits power
    String.ofList (if negative then '-' :: body else body)
  | .infinite negative => if negative then "-inf" else "inf"
  | .nan => "NaN"

end ClientGen.Binary64
