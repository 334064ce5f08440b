import ClientGen.Json.Parser

namespace ClientGen.Toml

def isBlank (c : Char) : Bool := c == ' ' || c == '\t'

def skipBlank (cs : List Char) : List Char := cs.dropWhile isBlank

def isVisible (c : Char) : Bool := c == '\t' || (0x20 ≤ c.toNat && c.toNat != 0x7F)

def newline? : List Char → Option (List Char)
  | '\n' :: rest => some rest
  | '\r' :: '\n' :: rest => some rest
  | _ => none

def skipComment (cs : List Char) : List Char :=
  if cs.head? == some '#' then cs.dropWhile isVisible else cs

def lineEnd? (cs : List Char) : Option (List Char) :=
  match skipComment (skipBlank cs) with
  | [] => some []
  | rest => newline? rest

def skipLines (fuel : Nat) (cs : List Char) : List Char :=
  match fuel with
  | 0 => cs
  | fuel + 1 =>
    let rest := skipBlank cs
    match newline? (skipComment rest) with
    | some rest => skipLines fuel rest
    | none => rest

namespace Quoted

def plainEscape? : Char → Option Char
  | 'b' => some '\x08'
  | 't' => some '\t'
  | 'n' => some '\n'
  | 'f' => some '\x0c'
  | 'r' => some '\r'
  | '"' => some '"'
  | '\\' => some '\\'
  | _ => none

def escape? : List Char → Option (Char × List Char)
  | [] => none
  | c :: rest =>
    let length := if c == 'u' then 4 else if c == 'U' then 8 else 0
    if length == 0 then (plainEscape? c).map fun x => (x, rest)
    else do
      if rest.length < length then none
      let code ← (rest.take length).foldlM (fun n d => (Json.hexValue? d).map (n * 16 + ·)) 0
      if Nat.isValidChar code then pure (Char.ofNat code, rest.drop length) else none

def line? (mark : Char) (fuel : Nat) (done : List Char) (cs : List Char) :
    Option (String × List Char) :=
  match fuel, cs with
  | fuel + 1, c :: rest =>
    if c == mark then some (String.ofList done.reverse, rest)
    else if mark == '"' && c == '\\' then
      match escape? rest with
      | none => none
      | some (x, rest) => line? mark fuel (x :: done) rest
    else if isVisible c then line? mark fuel (c :: done) rest
    else none
  | _, _ => none

def skipSpace (fuel : Nat) (cs : List Char) : List Char :=
  match fuel with
  | 0 => cs
  | fuel + 1 =>
    let rest := skipBlank cs
    match newline? rest with
    | some rest => skipSpace fuel rest
    | none => rest

-- The text after a backslash at the end of a line: the line breaks and white space up to the next word
-- do not count.
def continued? (cs : List Char) : Option (List Char) :=
  (newline? (skipBlank cs)).map fun rest => skipSpace (rest.length + 1) rest

-- The rest of a string on several lines after its opening marks. Up to two marks may stand before the
-- closing ones.
def lines? (mark : Char) (fuel : Nat) (done : List Char) (cs : List Char) :
    Option (String × List Char) :=
  match fuel, cs with
  | fuel + 1, c :: rest =>
    if c == mark then
      let count := min 5 (cs.takeWhile (· == mark)).length
      if count < 3 then lines? mark fuel (List.replicate count mark ++ done) (cs.drop count)
      else
        some (String.ofList ((List.replicate (count - 3) mark ++ done).reverse), cs.drop count)
    else if mark == '"' && c == '\\' then
      match continued? rest with
      | some rest => lines? mark fuel done rest
      | none =>
        match escape? rest with
        | none => none
        | some (x, rest) => lines? mark fuel (x :: done) rest
    else
      match newline? cs with
      | some rest => lines? mark fuel ('\n' :: done) rest
      | none => if isVisible c then lines? mark fuel (c :: done) rest else none
  | _, _ => none

-- A string whose opening mark is a quotation mark or an apostrophe, or three of them. A line break right
-- after three marks does not count.
def string? (mark : Char) (rest : List Char) : Option (String × List Char) :=
  match rest with
  | a :: b :: body =>
    if a == mark && b == mark then
      let body := (newline? body).getD body
      lines? mark (body.length + 1) [] body
    else line? mark (rest.length + 1) [] rest
  | _ => line? mark (rest.length + 1) [] rest

end Quoted

end ClientGen.Toml
