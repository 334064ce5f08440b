import ClientGen.Template.Expression

namespace ClientGen.Template

structure Margins where
  before : Bool
  after : Bool
  deriving DecidableEq, Repr, Inhabited

inductive Tag where
  | cond (condition : Expr)
  | elseCond (condition : Expr)
  | otherwise
  | endCond
  | loop (item : String) (key : Option String) (container : Expr)
  | endLoop
  | set (name : String) (whole : Bool) (e : Expr)
  deriving Inhabited

inductive Chunk where
  | text (s : String)
  | comment (margins : Margins)
  | print (margins : Margins) (e : Expr)
  | tag (margins : Margins) (tag : Tag)
  deriving Inhabited

def loopHead? (cs : List Char) : Option (String × Option String × List Char) := do
  let (first, rest) ← name? cs
  let (item, key, rest) ←
    match rest with
    | ',' :: rest => (nameAfter? rest).map fun (second, rest) => (second, some first, rest)
    | rest => pure (first, none, rest)
  pure (item, key, ← space? (← sign? "in" (← space? rest)))

def assignment? (whole : Bool) (cs : List Char) : Option (Tag × List Char) := do
  let (name, rest) ← name? cs
  let rest ← sign? "=" rest
  let (e, rest) ← anyValue? (fuelFor rest) rest
  pure (.set name whole e, rest)

def tag? (cs : List Char) : Option (Tag × List Char) := do
  let (word, rest) ← nameAfter? cs
  match word with
  | "if" => do
    let rest ← space? rest
    (logic? (fuelFor rest) rest).map fun (e, rest) => (.cond e, rest)
  | "elif" => do
    let rest ← space? rest
    (logic? (fuelFor rest) rest).map fun (e, rest) => (.elseCond e, rest)
  | "for" => do
    let (item, key, rest) ← loopHead? (← space? rest)
    (container? (fuelFor rest) rest).map fun (e, rest) => (.loop item key e, rest)
  | "set" => assignment? false (← space? rest)
  | "set_global" => assignment? true (← space? rest)
  | "else" => pure (.otherwise, rest)
  | "endif" => pure (.endCond, rest)
  | "endfor" => pure (.endLoop, rest)
  | _ => none

def minus (cs : List Char) : Bool × List Char :=
  match cs with
  | '-' :: rest => (true, rest)
  | rest => (false, rest)

def close? (delimiter : String) (cs : List Char) : Option (Bool × List Char) :=
  match sign? ("-" ++ delimiter) cs with
  | some rest => some (true, rest)
  | none => (sign? delimiter cs).map fun rest => (false, rest)

def commentEnd? (empty : Bool) : List Char → Option (Bool × List Char)
  | [] => none
  | '-' :: '#' :: '}' :: rest => if empty then none else some (true, rest)
  | '#' :: '}' :: rest => if empty then none else some (false, rest)
  | _ :: rest => commentEnd? false rest

def delimited? (mark : Char) (cs : List Char) : Option (Chunk × List Char) := do
  let (before, rest) := minus cs
  match mark with
  | '{' => do
    let (e, rest) ← anyValue? (fuelFor rest) rest
    let (after, rest) ← close? "\x7d\x7d" rest
    pure (.print { before, after } e, rest)
  | '%' => do
    let (tag, rest) ← tag? rest
    let (after, rest) ← close? "%\x7d" rest
    pure (.tag { before, after } tag, rest)
  | _ => do
    let (after, rest) ← commentEnd? true rest
    pure (.comment { before, after }, rest)

def textChunk (passed : List Char) : List Chunk :=
  if passed.isEmpty then [] else [.text (String.ofList passed.reverse)]

def chunks? (fuel : Nat) (passed : List Char) (cs : List Char) : Option (List Chunk) :=
  match fuel with
  | 0 => none
  | fuel + 1 =>
    match cs with
    | [] => some (textChunk passed)
    | c :: rest =>
      match rest with
      | mark :: inside =>
        if c == '{' && (mark == '{' || mark == '%' || mark == '#') then do
          let (chunk, rest) ← delimited? mark inside
          let later ← chunks? fuel [] rest
          pure (textChunk passed ++ chunk :: later)
        else chunks? fuel (c :: passed) rest
      | [] => some (textChunk (c :: passed))

end ClientGen.Template
