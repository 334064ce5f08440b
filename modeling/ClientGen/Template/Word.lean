import ClientGen.Number.Read
import ClientGen.Template.Ast

namespace ClientGen.Template

def isTagSpace (c : Char) : Bool := c == ' ' || c == '\t' || c == '\r' || c == '\n'

def skipSpace (cs : List Char) : List Char := cs.dropWhile isTagSpace

def space? (cs : List Char) : Option (List Char) :=
  if cs.head?.any isTagSpace then some (skipSpace cs) else none

def sign? (sign : String) (cs : List Char) : Option (List Char) :=
  let rest := skipSpace cs
  if sign.toList.isPrefixOf rest then some (rest.drop sign.length) else none

def operator? (word : String) (cs : List Char) : Option (List Char) := (sign? word cs).bind space?

def isNameStart (c : Char) : Bool := c.isAlpha || c == '_'

def isNameChar (c : Char) : Bool := c.isAlphanum || c == '_'

def name? (cs : List Char) : Option (String × List Char) :=
  if cs.head?.any isNameStart then
    some (String.ofList (cs.takeWhile isNameChar), cs.dropWhile isNameChar)
  else none

def nameAfter? (cs : List Char) : Option (String × List Char) := name? (skipSpace cs)

def wholeDigits? (cs : List Char) : Option (Bool × List Nat × List Char) :=
  let (negative, cs) := match cs with
    | '-' :: rest => (true, rest)
    | rest => (false, rest)
  match cs with
  | '0' :: rest => some (negative, [0], rest)
  | cs =>
    let (digits, rest) := Json.digits cs
    if digits.isEmpty then none else some (negative, digits, rest)

def number? (cs : List Char) : Option (Literal × List Char) := do
  let (negative, whole, rest) ← wholeDigits? cs
  let (fraction, after) := match rest with
    | '.' :: more => Json.digits more
    | _ => ([], rest)
  if fraction.isEmpty then
    let value : Int := Json.numeral whole
    let value := if negative then -value else value
    if Word.isSigned value then pure (.int value, rest) else none
  else
    let x := Binary64.ofDecimal negative (Json.numeral (whole ++ fraction)) (-(fraction.length : Int))
    if x.isFinite then pure (.float x, after) else none

def isQuote (c : Char) : Bool := c == '"' || c == '\'' || c == '\x60'

def quoted? : List Char → Option (String × List Char)
  | [] => none
  | mark :: cs =>
    match cs.dropWhile (· != mark) with
    | [] => none
    | _ :: rest =>
      if isQuote mark then some (String.ofList (cs.takeWhile (· != mark)), rest) else none

-- A truth value, which ends where its word ends: a longer word is no name.
def bool? (cs : List Char) : Option (Bool × List Char) :=
  let words := [("true", true), ("false", false), ("True", true), ("False", false)]
  (words.find? fun (word, _) => word.toList.isPrefixOf cs).map fun (word, value) =>
    (value, cs.drop word.length)

def quotedStep (cs : List Char) (s : String) : Step :=
  if cs.head? == some '\x60' then .held ("\x60" ++ s ++ "\x60") [] else .key s

def steps (fuel : Nat) (cs : List Char) : List Step × List Char :=
  match fuel, cs with
  | fuel + 1, '.' :: rest =>
    let step := rest.takeWhile isNameChar
    if step.isEmpty then ([], cs)
    else
      let (later, after) := steps fuel (rest.dropWhile isNameChar)
      (.key (String.ofList step) :: later, after)
  | fuel + 1, '[' :: rest =>
    let inner := match wholeDigits? rest, quoted? rest, name? rest with
      | some (negative, digits, rest), _, _ =>
        some (.key ((if negative then "-" else "") ++ toString (Json.numeral digits)), rest)
      | none, some (s, after), _ => some (quotedStep rest s, after)
      | none, none, some (root, rest) =>
        let (inner, after) := steps fuel rest
        some (.held root inner, after)
      | none, none, none => none
    match inner with
    | some (step, ']' :: rest) =>
      let (later, after) := steps fuel rest
      (step :: later, after)
    | _ => ([], cs)
  | _, _ => ([], cs)

def lookup? (cs : List Char) : Option (Lookup × List Char) := do
  let (root, rest) ← name? cs
  let (steps, after) := steps (rest.length + 1) rest
  pure (⟨root, steps⟩, after)

end ClientGen.Template
