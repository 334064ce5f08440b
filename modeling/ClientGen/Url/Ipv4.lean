import ClientGen.Json.Parser
import ClientGen.Number.Radix
import ClientGen.Text.Segment

namespace ClientGen.Url.Ipv4

-- Digits may be left out after the mark of a base.
def digits? (base : Nat) (cs : List Char) : Option Nat :=
  if cs.isEmpty then some 0 else Radix.nat? base cs

-- The value of one number. Only the base may be written, which means zero.
def number? : List Char → Option Nat
  | [] => none
  | '0' :: 'x' :: digits => digits? 16 digits
  | '0' :: digits => digits? 8 digits
  | digits => Radix.nat? 10 digits

def parts (host : List Char) : List (List Char) :=
  let all := Text.pieces '.' host
  if 1 < all.length && all.getLast? == some [] then all.dropLast else all

-- Whether a host has to be an address: its last part is a number, or at least digits.
def endsInNumber (host : List Char) : Bool :=
  match (parts host).getLast? with
  | some last => (!last.isEmpty && last.all Char.isDigit) || (number? last).isSome
  | none => false

def isAddress (host : List Char) : Bool :=
  match (parts host).mapM number? with
  | none => false
  | some numbers =>
    match numbers.getLast? with
    | none => false
    | some last =>
      numbers.length ≤ 4 && numbers.dropLast.all (· < 256) && last < twoTo (8 * (5 - numbers.length))

end ClientGen.Url.Ipv4
