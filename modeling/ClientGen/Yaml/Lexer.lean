import ClientGen.Yaml.Token

namespace ClientGen.Yaml

-- Something that may turn out to be a key: the number of tokens before it, and its place. A required one
-- stands where its block expects a key.
structure Candidate where
  position : Nat
  index : Nat
  line : Nat
  column : Nat
  required : Bool
  deriving DecidableEq, Repr, Inhabited

-- `indent` is the column of the innermost block and `outer` are those around it. There is one slot for a
-- candidate in each open flow collection, the innermost first, and one outside.
structure Lexer where
  cursor : Cursor
  tokens : Array Token
  indent : Int
  outer : List Int
  keyAllowed : Bool
  candidate : Option Candidate
  flows : List (Option Candidate)
  deriving Inhabited

namespace Lexer

def start (cs : List Char) : Lexer :=
  { cursor := Cursor.start cs
    tokens := #[]
    indent := -1
    outer := []
    keyAllowed := true
    candidate := none
    flows := [] }

def inFlow (s : Lexer) : Bool := !s.flows.isEmpty

def emit (s : Lexer) (token : Token) : Lexer := { s with tokens := s.tokens.push token }

def take (s : Lexer) (token : Token) (length : Nat) : Lexer :=
  { s with tokens := s.tokens.push token, cursor := s.cursor.advance length }

-- A key ends on its line and has at most 1024 characters.
def isStale (c : Cursor) (candidate : Candidate) : Bool :=
  candidate.line < c.line || candidate.index + 1024 < c.index

def refresh? (c : Cursor) : Option Candidate → Option (Option Candidate)
  | none => some none
  | some candidate =>
    if isStale c candidate then if candidate.required then none else some none
    else some (some candidate)

def dropStale? (s : Lexer) : Option Lexer := do
  let candidate ← refresh? s.cursor s.candidate
  let flows ← s.flows.mapM (refresh? s.cursor)
  pure { s with candidate, flows }

def dropCandidate? (s : Lexer) : Option Lexer :=
  if s.candidate.any (·.required) then none else some { s with candidate := none }

def saveCandidate? (s : Lexer) : Option Lexer :=
  if s.keyAllowed then
    s.dropCandidate?.map fun s =>
      { s with
        candidate := some {
          position := s.tokens.size
          index := s.cursor.index
          line := s.cursor.line
          column := s.cursor.column
          required := !s.inFlow && s.indent == s.cursor.column } }
  else some s

def openBlock (s : Lexer) (column position : Nat) (token : Token) : Lexer :=
  if !s.inFlow && s.indent < column then
    { s with
      tokens := s.tokens.insertIdxIfInBounds position token
      indent := column
      outer := s.indent :: s.outer }
  else s

def openBlockHere (s : Lexer) (token : Token) : Lexer :=
  s.openBlock s.cursor.column s.tokens.size token

def closeBlocksOf (column : Int) (indent : Int) (tokens : Array Token) :
    List Int → Int × List Int × Array Token
  | [] => (indent, [], tokens)
  | next :: outer =>
    if column < indent then closeBlocksOf column next (tokens.push .blockEnd) outer
    else (indent, next :: outer, tokens)

def closeBlocks (s : Lexer) (column : Int) : Lexer :=
  if s.inFlow then s
  else
    let (indent, outer, tokens) := closeBlocksOf column s.indent s.tokens s.outer
    { s with indent, outer, tokens }

-- Passes white space, comments and line breaks. Tabs count as white space only where no key can start; a
-- new line lets keys start again. A byte order mark may start a line, in which it takes up a column.
def skipSpace (fuel : Nat) (s : Lexer) : Lexer :=
  match fuel with
  | 0 => s
  | fuel + 1 =>
    let c := s.cursor
    let c := if c.column == 0 && c.rest.head? == some '\uFEFF' then c.advance 1 else c
    let c := c.skipWhile fun x => x == ' ' || ((s.inFlow || !s.keyAllowed) && x == '\t')
    let c := if c.rest.head? == some '#' then c.skipWhile fun x => !isBreak x else c
    if c.lineBreak.isEmpty then { s with cursor := c }
    else skipSpace fuel { s with cursor := c.skipLineBreak, keyAllowed := s.keyAllowed || !s.inFlow }

def directive? (s : Lexer) : Option Lexer := do
  let s ← (s.closeBlocks (-1)).dropCandidate?
  let (token, cursor) ← Directive.read? s.cursor
  pure { s.emit token with keyAllowed := false, cursor }

def documentMark? (s : Lexer) (token : Token) : Option Lexer := do
  let s ← (s.closeBlocks (-1)).dropCandidate?
  pure { s.take token 3 with keyAllowed := false }

def openFlow? (s : Lexer) (token : Token) : Option Lexer := do
  let s ← s.saveCandidate?
  pure { s.take token 1 with keyAllowed := true, candidate := none, flows := s.candidate :: s.flows }

def closeFlow? (s : Lexer) (token : Token) : Option Lexer := do
  let s := { ← s.dropCandidate? with keyAllowed := false }
  match s.flows with
  | candidate :: flows => pure { s.take token 1 with candidate, flows }
  | [] => pure (s.take token 1)

def flowEntry? (s : Lexer) : Option Lexer := do
  let s ← s.dropCandidate?
  pure { s.take .flowEntry 1 with keyAllowed := true }

def blockEntry? (s : Lexer) : Option Lexer := do
  if !s.inFlow && !s.keyAllowed then none
  let s ← (s.openBlockHere .blockSequenceStart).dropCandidate?
  pure { s.take .blockEntry 1 with keyAllowed := true }

def key? (s : Lexer) : Option Lexer := do
  if !s.inFlow && !s.keyAllowed then none
  let s ← (s.openBlockHere .blockMappingStart).dropCandidate?
  pure { s.take .key 1 with keyAllowed := !s.inFlow }

def value? (s : Lexer) : Option Lexer := do
  match s.candidate with
  | some k =>
    let s := { s with tokens := s.tokens.insertIdxIfInBounds k.position .key }
    let s := s.openBlock k.column k.position .blockMappingStart
    pure { s.take .value 1 with keyAllowed := false, candidate := none }
  | none =>
    if !s.inFlow && !s.keyAllowed then none
    let s := s.openBlockHere .blockMappingStart
    pure { s.take .value 1 with keyAllowed := !s.inFlow }

def anchor? (s : Lexer) (token : String → Token) : Option Lexer := do
  let s ← s.saveCandidate?
  let (name, cursor) ← anchorName? s.cursor
  pure { s.emit (token name) with keyAllowed := false, cursor }

def tag? (s : Lexer) : Option Lexer := do
  let s ← s.saveCandidate?
  let (token, cursor) ← Tag.read? s.inFlow s.cursor
  pure { s.emit token with keyAllowed := false, cursor }

def blockScalar? (s : Lexer) (literal : Bool) : Option Lexer := do
  let s ← s.dropCandidate?
  let (text, cursor) ← Block.read? literal s.indent s.cursor
  pure { s.emit (.scalar text false) with keyAllowed := true, cursor }

def quoted? (s : Lexer) (mark : Char) : Option Lexer := do
  let s ← s.saveCandidate?
  let (text, cursor) ← Quoted.read? mark s.cursor
  pure { s.emit (.scalar text false) with keyAllowed := false, cursor }

def plain? (s : Lexer) : Option Lexer := do
  let s ← s.saveCandidate?
  let (text, newLine, cursor) ← Plain.read? s.inFlow (s.indent + 1).toNat s.cursor
  pure { s.emit (.scalar text true) with keyAllowed := newLine, cursor }

def isIndicator (c : Char) : Bool := "-?:,[]\x7b\x7d#&*!|>'\"%@`".toList.contains c

def token? (s : Lexer) (c : Char) (rest : List Char) : Option Lexer :=
  if s.cursor.column == 0 && c == '%' then s.directive?
  else if s.cursor.atMark '-' then s.documentMark? .documentStart
  else if s.cursor.atMark '.' then s.documentMark? .documentEnd
  else if c == '[' then s.openFlow? .flowSequenceStart
  else if c == '{' then s.openFlow? .flowMappingStart
  else if c == ']' then s.closeFlow? .flowSequenceEnd
  else if c == '}' then s.closeFlow? .flowMappingEnd
  else if c == ',' then s.flowEntry?
  else if c == '-' && startsBlank rest then s.blockEntry?
  else if c == '?' && (s.inFlow || startsBlank rest) then s.key?
  else if c == ':' && (s.inFlow || startsBlank rest) then s.value?
  else if c == '*' then s.anchor? .alias
  else if c == '&' then s.anchor? .anchor
  else if c == '!' then s.tag?
  else if c == '|' && !s.inFlow then s.blockScalar? true
  else if c == '>' && !s.inFlow then s.blockScalar? false
  else if c == '\'' || c == '"' then s.quoted? c
  else if (!isBlankOrBreak c && !isIndicator c) || c == '-' ||
      (!s.inFlow && (c == '?' || c == ':')) then s.plain?
  else none

def finish? (s : Lexer) : Option (Array Token) :=
  ((s.closeBlocks (-1)).dropCandidate?).map (·.tokens)

def run? (fuel : Nat) (s : Lexer) : Option (Array Token) :=
  match fuel with
  | 0 => none
  | fuel + 1 =>
    match (s.skipSpace (s.cursor.rest.length + 1)).dropStale? with
    | none => none
    | some s =>
      let s := s.closeBlocks s.cursor.column
      match s.cursor.rest with
      | [] => s.finish?
      | c :: rest => (s.token? c rest).bind (run? fuel)

end Lexer

-- Characters that a text may have: no controls but tabs and line breaks, and no code point at the end of
-- the basic plane that is no character.
def isAllowed (c : Char) : Bool :=
  let n := c.toNat
  c == '\t' || c == '\n' || c == '\r' || (0x20 ≤ n && n ≤ 0x7E) || n == 0x85 ||
    (0xA0 ≤ n && n ≤ 0xD7FF) || (0xE000 ≤ n && n ≤ 0xFFFD) || 0x10000 ≤ n

def tokens? (text : String) : Option (List Token) :=
  let cs := text.toList
  if cs.all isAllowed then
    ((Lexer.start cs).run? (cs.length + 1)).map Array.toList
  else none

end ClientGen.Yaml
