import ClientGen.Json.Parser
import ClientGen.Number.Radix

namespace ClientGen.Toml

def ungrouped? : List Char → Option (List Char)
  | [] => some []
  | ['_'] => none
  | '_' :: '_' :: _ => none
  | c :: rest => (ungrouped? rest).map fun ds => if c == '_' then ds else c :: ds

def digits? (cs : List Char) : Option (List Char) :=
  if cs.isEmpty || cs.head? == some '_' then none else ungrouped? cs

def decimal? (cs : List Char) : Option (List Char) := do
  let ds ← digits? cs
  if ds.all Char.isDigit then pure ds else none

def whole? (cs : List Char) : Option (List Char) := do
  let ds ← decimal? cs
  if ds.head? == some '0' && 1 < cs.length then none else pure ds

def sign : List Char → Bool × List Char
  | '-' :: rest => (true, rest)
  | '+' :: rest => (false, rest)
  | rest => (false, rest)

-- Whole numbers have 64 bits.
def word? (i : Int) : Option Json :=
  if Word.isSigned i then some (.num (.int i)) else none

def int? (cs : List Char) : Option Json :=
  match cs with
  | '0' :: 'x' :: ds => ((digits? ds).bind (Radix.nat? 16)).bind fun n => word? n
  | '0' :: 'o' :: ds => ((digits? ds).bind (Radix.nat? 8)).bind fun n => word? n
  | '0' :: 'b' :: ds => ((digits? ds).bind (Radix.nat? 2)).bind fun n => word? n
  | cs =>
    let (negative, ds) := sign cs
    ((whole? ds).bind (Radix.nat? 10)).bind fun n => word? (if negative then -(n : Int) else n)

def float? (cs : List Char) : Option Json := do
  let (negative, rest) := sign cs
  let text := String.ofList rest
  if text = "inf" then pure (.num (.float (.infinite negative)))
  else if text = "nan" then pure (.num (.float .nan))
  else
    let isMark := fun (c : Char) => c == 'e' || c == 'E'
    let mantissa := rest.takeWhile fun c => !isMark c
    let exponent := (rest.drop mantissa.length).drop 1
    let before := mantissa.takeWhile (· != '.')
    let after := (mantissa.drop before.length).drop 1
    if before.length = rest.length then none
    let whole ← whole? before
    let fraction ← if mantissa.length = before.length then some [] else decimal? after
    let (powerNegative, powerDigits) := sign exponent
    let power ← if rest.length = mantissa.length then some ['0'] else decimal? powerDigits
    let digits ← Radix.nat? 10 (whole ++ fraction)
    let power : Int ← Radix.nat? 10 power
    let power := if powerNegative then -power else power
    let x := Binary64.ofDecimal negative digits (power - fraction.length)
    if x = .infinite false then none else pure (.num (.float x))

def fixed? (count : Nat) (cs : List Char) : Option (Nat × List Char) := do
  let ds := cs.take count
  if ds.length = count ∧ ds.all Char.isDigit then pure (← Radix.nat? 10 ds, cs.drop count)
  else none

def daysOf (year month : Nat) : Nat :=
  if month = 2 then
    if year % 4 = 0 ∧ (year % 100 ≠ 0 ∨ year % 400 = 0) then 29 else 28
  else if [4, 6, 9, 11].contains month then 30
  else 31

def sign? (c : Char) : List Char → Option (List Char)
  | x :: rest => if x == c then some rest else none
  | [] => none

def date? (cs : List Char) : Option (List Char) := do
  let (year, rest) ← fixed? 4 cs
  let (month, rest) ← fixed? 2 (← sign? '-' rest)
  let (day, rest) ← fixed? 2 (← sign? '-' rest)
  if 1 ≤ month ∧ month ≤ 12 ∧ 1 ≤ day ∧ day ≤ daysOf year month then pure rest else none

def time? (cs : List Char) : Option (List Char) := do
  let (hour, rest) ← fixed? 2 cs
  let (minute, rest) ← fixed? 2 (← sign? ':' rest)
  let (second, rest) ← fixed? 2 (← sign? ':' rest)
  if 24 ≤ hour ∨ 60 ≤ minute ∨ 61 ≤ second then none
  match rest with
  | '.' :: digits =>
    let after := digits.dropWhile Char.isDigit
    if after.length = digits.length then none else pure after
  | rest => pure rest

def offset? (cs : List Char) : Option (List Char) :=
  match cs with
  | 'Z' :: rest => some rest
  | 'z' :: rest => some rest
  | c :: rest =>
    if c == '+' || c == '-' then do
      let (hour, rest) ← fixed? 2 rest
      let (minute, rest) ← fixed? 2 (← sign? ':' rest)
      if 24 ≤ hour ∨ 60 ≤ minute then none else pure rest
    else some cs
  | [] => some []

def isMoment (cs : List Char) : Bool :=
  match date? cs with
  | some [] => true
  | some (c :: rest) =>
    (c == 'T' || c == 't' || c == ' ') && ((time? rest).bind offset?) == some []
  | none => time? cs == some []

def isScalarChar (c : Char) : Bool :=
  c.isAlphanum || c == '_' || c == '+' || c == '-' || c == '.' || c == ':'

-- The characters of a number, a point in time or a truth value. A space may stand between a date and a
-- time.
def scalarText (cs : List Char) : List Char :=
  let first := cs.takeWhile isScalarChar
  let rest := cs.drop first.length
  if date? first == some [] then
    match rest with
    | ' ' :: a :: b :: ':' :: _ =>
      if a.isDigit && b.isDigit then first ++ ' ' :: (rest.drop 1).takeWhile isScalarChar else first
    | _ => first
  else first

-- A point in time is an object, as it is neither a text nor a number.
def moment (cs : List Char) : Json := .obj [("moment", .str (String.ofList cs))]

def scalar? (cs : List Char) : Option Json :=
  let text := String.ofList cs
  if text = "true" then some (.bool true)
  else if text = "false" then some (.bool false)
  else if isMoment cs then some (moment cs)
  else (int? cs).or (float? cs)

end ClientGen.Toml
