import ClientGen.Json.Parser
import ClientGen.Text.Segment

namespace ClientGen.Url.Ipv6

def isByte (cs : List Char) : Bool :=
  !cs.isEmpty && cs.all Char.isDigit && (cs.length == 1 || cs.head? != some '0') &&
    cs.length ≤ 3 && Json.numeral (cs.map fun c => c.toNat - '0'.toNat) < 256

def isFourBytes (cs : List Char) : Bool :=
  let parts := Text.pieces '.' cs
  parts.length == 4 && parts.all isByte

def isRest (fuel : Nat) (count : Nat) (compressed : Bool) (cs : List Char) : Bool :=
  match fuel with
  | 0 => false
  | fuel + 1 =>
    if cs.isEmpty then compressed || count == 8
    else if count == 8 then false
    else match cs with
      | ':' :: rest => if compressed then false else isRest fuel (count + 1) true rest
      | cs =>
        let group := (cs.take 4).takeWhile fun c => (Json.hexValue? c).isSome
        match cs.drop group.length with
        | [] => isRest fuel (count + 1) compressed []
        | [':'] => false
        | ':' :: rest => isRest fuel (count + 1) compressed rest
        | '.' :: _ =>
          !group.isEmpty && count ≤ 6 && isFourBytes cs && (compressed || count == 6)
        | _ => false

def isAddress (cs : List Char) : Bool :=
  let fuel := cs.length + 2
  match cs with
  | ':' :: ':' :: rest => isRest fuel 1 true rest
  | ':' :: _ => false
  | cs => isRest fuel 0 false cs

end ClientGen.Url.Ipv6
