import ClientGen.Json.Parser
import ClientGen.Yaml.Cursor

namespace ClientGen.Yaml

def folded (space : List Char) : List Char :=
  match breaksOf space with
  | [] => space
  | ['\n'] => [' ']
  | '\n' :: more => more
  | other => other

def spaceAhead (cs : List Char) : List Char := cs.takeWhile isBlankOrBreak

namespace Quoted

def escape? : Char → Option Char
  | '0' => some '\x00'
  | 'a' => some '\x07'
  | 'b' => some '\x08'
  | 't' => some '\t'
  | '\t' => some '\t'
  | 'n' => some '\n'
  | 'v' => some '\x0b'
  | 'f' => some '\x0c'
  | 'r' => some '\r'
  | 'e' => some '\x1b'
  | ' ' => some ' '
  | '"' => some '"'
  | '/' => some '/'
  | '\\' => some '\\'
  | 'N' => some '\x85'
  | '_' => some '\xa0'
  | 'L' => some '\u2028'
  | 'P' => some '\u2029'
  | _ => none

def codeLength? : Char → Option Nat
  | 'x' => some 2
  | 'u' => some 4
  | 'U' => some 8
  | _ => none

def code? (digits : List Char) : Option Char := do
  let value ← digits.foldlM (fun n c => (Json.hexValue? c).map (n * 16 + ·)) 0
  if Nat.isValidChar value then some (Char.ofNat value) else none

def escaped? : List Char → Option (Char × Nat)
  | [] => none
  | c :: rest =>
    match codeLength? c with
    | some length =>
      if rest.length < length then none
      else (code? (rest.take length)).map fun x => (x, length + 1)
    | none => (escape? c).map fun x => (x, 1)

-- The rest of a scalar after its opening mark. `done` holds its characters, the last one first.
def body? (mark : Char) (fuel : Nat) (done : List Char) (c : Cursor) : Option (String × Cursor) :=
  match fuel with
  | 0 => none
  | fuel + 1 =>
    if c.atDocumentMark then none
    else match c.rest with
      | [] => none
      | x :: rest =>
        if isBlankOrBreak x then
          let space := spaceAhead c.rest
          body? mark fuel ((folded space).reverse ++ done) (c.pass space)
        else if x == mark then
          if mark == '\'' && rest.head? == some mark then
            body? mark fuel (mark :: done) (c.advance 2)
          else some (String.ofList done.reverse, c.advance 1)
        else if mark == '"' && x == '\\' then
          if rest.head?.any isBreak then
            let after := (c.advance 1).skipLineBreak
            let space := spaceAhead after.rest
            body? mark fuel ((breaksOf space).reverse ++ done) (after.pass space)
          else
            match escaped? rest with
            | none => none
            | some (x, length) => body? mark fuel (x :: done) (c.advance (length + 1))
        else body? mark fuel (x :: done) (c.advance 1)

def read? (mark : Char) (c : Cursor) : Option (String × Cursor) :=
  body? mark (c.rest.length + 1) [] (c.advance 1)

end Quoted

namespace Plain

def isFlowSign (c : Char) : Bool := c == ',' || c == '[' || c == ']' || c == '{' || c == '}'

def word? (inFlow : Bool) : List Char → Option (List Char)
  | [] => some []
  | c :: rest =>
    if isBlankOrBreak c then some []
    else if inFlow && c == ':' && rest.head?.any (fun x => isFlowSign x || x == '?') then none
    else if (c == ':' && startsBlank rest) || (inFlow && isFlowSign c) then some []
    else (word? inFlow rest).map (c :: ·)

def tabInIndent (indent : Nat) (onNewLine : Bool) (column : Nat) : List Char → Bool
  | [] => false
  | c :: rest =>
    if isBreak c then tabInIndent indent true 0 rest
    else (onNewLine && column < indent && c == '\t') ||
      tabInIndent indent onNewLine (column + 1) rest

-- A scalar whose lines after the first are at least at column `indent`. The flag tells whether the line
-- breaks after it have been passed.
def body? (inFlow : Bool) (indent : Nat) (fuel : Nat) (done space : List Char) (c : Cursor) :
    Option (String × Bool × Cursor) :=
  match fuel with
  | 0 => none
  | fuel + 1 =>
    let result := (String.ofList done.reverse, !(breaksOf space).isEmpty, c)
    if c.atDocumentMark || c.rest.head? == some '#' then some result
    else
      match word? inFlow c.rest with
      | none => none
      | some [] => some result
      | some word =>
        let done := word.reverse ++ (folded space).reverse ++ done
        let c := c.advance word.length
        let space := spaceAhead c.rest
        if tabInIndent indent false c.column space then none
        else
          let c := c.pass space
          if space.isEmpty || (!inFlow && c.column < indent) then
            some (String.ofList done.reverse, !(breaksOf space).isEmpty, c)
          else body? inFlow indent fuel done space c

def read? (inFlow : Bool) (indent : Nat) (c : Cursor) : Option (String × Bool × Cursor) :=
  body? inFlow indent (c.rest.length + 1) [] [] c

end Plain

namespace Block

inductive Chomping where
  | strip
  | clip
  | keep
  deriving DecidableEq, Repr, Inhabited

def chomping? : Char → Option Chomping
  | '+' => some .keep
  | '-' => some .strip
  | _ => none

def header? (c : Cursor) : Option (Option Nat × Chomping × Cursor) :=
  let indent? := fun (x : Char) => if x.isDigit then some (x.toNat - '0'.toNat) else none
  let found := match c.rest with
    | [] => (none, .clip, 0)
    | a :: rest =>
      match chomping? a, indent? a with
      | some chomping, _ =>
        match rest.head?.bind indent? with
        | some n => (some n, chomping, 2)
        | none => (none, chomping, 1)
      | none, some n =>
        match rest.head?.bind chomping? with
        | some chomping => (some n, chomping, 2)
        | none => (some n, .clip, 1)
      | none, none => (none, .clip, 0)
  let (indent, chomping, length) := found
  if indent == some 0 then none else some (indent, chomping, c.advance length)

-- Empty lines before a line of text: their line breaks, and the deepest column that their white space
-- reaches. Without a given indentation, all spaces belong to it.
def emptyLines? (indent : Option Nat) (fuel : Nat) (done : List Char) (deepest : Nat) (c : Cursor) :
    Option (List Char × Nat × Cursor) :=
  match fuel with
  | 0 => none
  | fuel + 1 =>
    let spaces := c.rest.takeWhile (· == ' ')
    let count := match indent with
      | some n => min spaces.length (n - c.column)
      | none => spaces.length
    let c := c.advance count
    let deepest := max deepest c.column
    if indent.all (c.column < ·) && c.rest.head? == some '\t' then none
    else if c.lineBreak.isEmpty then some (done, deepest, c)
    else emptyLines? indent fuel (done ++ breaksOf c.lineBreak) deepest c.skipLineBreak

-- What stands between two lines of text: `last` is the line break of the first one and `empty` are those
-- of the empty lines. Only lines that start with text are folded.
def joint (folding : Bool) (last empty : List Char) : List Char :=
  if folding && last == ['\n'] then if empty.isEmpty then [' '] else empty else last ++ empty

def lines? (literal : Bool) (indent : Nat) (chomping : Chomping) (fuel : Nat)
    (done last empty : List Char) (blank : Bool) (c : Cursor) : Option (String × Cursor) :=
  match fuel with
  | 0 => none
  | fuel + 1 =>
    if c.column != indent || c.rest.isEmpty then
      let tail := match chomping with
        | .strip => []
        | .clip => last
        | .keep => last ++ empty
      some (String.ofList (done.reverse ++ tail), c)
    else
      let nowBlank := c.rest.head?.any isBlank
      let before := joint (!literal && !blank && !nowBlank) last empty
      let line := c.rest.takeWhile fun x => !isBreak x
      let after := c.advance line.length
      match emptyLines? (some indent) (c.rest.length + 1) [] 0 after.skipLineBreak with
      | none => none
      | some (empty, _, next) =>
        lines? literal indent chomping fuel (line.reverse ++ before.reverse ++ done)
          (breaksOf after.lineBreak) empty nowBlank next

def read? (literal : Bool) (parent : Int) (c : Cursor) : Option (String × Cursor) := do
  let (wanted, chomping, c) ← header? (c.advance 1)
  let c := c.skipWhile isBlank
  let c := if c.rest.head? == some '#' then c.skipWhile fun x => !isBreak x else c
  if !startsBreak c.rest then none
  let c := c.skipLineBreak
  let least := parent.toNat
  let given := wanted.map (least + ·)
  let (empty, deepest, c) ← emptyLines? given (c.rest.length + 1) [] 0 c
  let indent := given.getD (max deepest (max (parent + 1).toNat 1))
  lines? literal indent chomping (c.rest.length + 1) [] [] empty false c

end Block

end ClientGen.Yaml
