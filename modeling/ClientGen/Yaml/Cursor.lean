namespace ClientGen.Yaml

def isBlank (c : Char) : Bool := c == ' ' || c == '\t'

def isBreak (c : Char) : Bool :=
  c == '\r' || c == '\n' || c == '\x85' || c == '\u2028' || c == '\u2029'

def isBlankOrBreak (c : Char) : Bool := isBlank c || isBreak c

def startsBlank (cs : List Char) : Bool := cs.head?.all isBlankOrBreak

def startsBreak (cs : List Char) : Bool := cs.head?.all isBreak

def isNameChar (c : Char) : Bool := c.isAlphanum || c == '_' || c == '-'

def breaksOf : List Char → List Char
  | '\r' :: '\n' :: rest => '\n' :: breaksOf rest
  | c :: rest =>
    if c == '\u2028' || c == '\u2029' then c :: breaksOf rest
    else if isBreak c then '\n' :: breaksOf rest
    else breaksOf rest
  | [] => []

structure Cursor where
  rest : List Char
  index : Nat
  line : Nat
  column : Nat
  deriving Inhabited

namespace Cursor

def start (cs : List Char) : Cursor := { rest := cs, index := 0, line := 0, column := 0 }

def advance (c : Cursor) (count : Nat) : Cursor :=
  { c with rest := c.rest.drop count, index := c.index + count, column := c.column + count }

def skipWhile (c : Cursor) (p : Char → Bool) : Cursor := c.advance (c.rest.takeWhile p).length

def linesOf (lines column : Nat) : List Char → Nat × Nat
  | '\r' :: '\n' :: rest => linesOf (lines + 1) 0 rest
  | c :: rest => if isBreak c then linesOf (lines + 1) 0 rest else linesOf lines (column + 1) rest
  | [] => (lines, column)

def pass (c : Cursor) (text : List Char) : Cursor :=
  let (lines, column) := linesOf 0 c.column text
  { rest := c.rest.drop text.length
    index := c.index + text.length
    line := c.line + lines
    column }

def lineBreak (c : Cursor) : List Char :=
  match c.rest with
  | '\r' :: '\n' :: _ => ['\r', '\n']
  | x :: _ => if isBreak x then [x] else []
  | [] => []

def skipLineBreak (c : Cursor) : Cursor := c.pass c.lineBreak

def atMark (c : Cursor) (mark : Char) : Bool :=
  c.column == 0 && c.rest.take 3 == [mark, mark, mark] && startsBlank (c.rest.drop 3)

def atDocumentMark (c : Cursor) : Bool := c.atMark '-' || c.atMark '.'

end Cursor

end ClientGen.Yaml
