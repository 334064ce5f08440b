import ClientGen.Json.Parser
import ClientGen.Text.Trim

namespace ClientGen.Binary64

def unsigned? (negative : Bool) (cs : List Char) : Option Binary64 := do
  let (whole, rest) := Json.digits cs
  let (fraction, rest) := match rest with
    | '.' :: r => Json.digits r
    | r => ([], r)
  if whole.isEmpty && fraction.isEmpty then none
  let (power, rest) ← Json.power? rest
  if !rest.isEmpty then none
  let exponent : Int := match power with
    | some (true, n) => -n
    | some (false, n) => n
    | none => 0
  pure (ofDecimal negative (Json.numeral (whole ++ fraction)) (exponent - fraction.length))

def read? (cs : List Char) : Option Binary64 :=
  match cs with
  | '-' :: rest => unsigned? true rest
  | '+' :: rest => unsigned? false rest
  | rest => unsigned? false rest

end ClientGen.Binary64
