import ClientGen.Json.Printer

namespace ClientGen.CommandLine

inductive Level where
  | info
  | error
  deriving DecidableEq, Repr, Inhabited

def Level.name : Level → String
  | .info => "INFO"
  | .error => "ERROR"

structure Record where
  level : Level
  message : String
  deriving DecidableEq, Repr, Inhabited

def isTerminalControl (c : Char) : Bool :=
  c == '\x07' || c == '\x08' || c == '\x0c' || c == '\x1b' || c == '\x7f'

-- A control character of ASCII is spelled with two hexadecimal digits, and one beyond with its digits in
-- braces.
def spelled (c : Char) : List Char :=
  let digits := [Json.hexDigit (c.toNat / 16), Json.hexDigit c.toNat]
  if isTerminalControl c then '\\' :: 'x' :: digits
  else if 0x80 ≤ c.toNat && c.toNat ≤ 0x9F then '\\' :: 'u' :: '{' :: digits ++ ['}']
  else [c]

def Record.ofMessage (level : Level) (message : String) : Record :=
  { level, message := String.ofList (message.toList.flatMap spelled) }

end ClientGen.CommandLine
