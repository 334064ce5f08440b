import ClientGen.Yaml.Value

namespace ClientGen.Yaml.Scalar

def isPrintable (c : Char) : Bool :=
  let n := c.toNat
  n == 0x0A || (0x20 ≤ n && n ≤ 0x7E) || (0xA0 ≤ n && n ≤ 0xD7FF) ||
    (0xE000 ≤ n && n ≤ 0xFFFD && n != 0xFEFF) || 0x10000 ≤ n

def hasPair (related : Char → Char → Bool) : List Char → Bool
  | a :: b :: rest => related a b || hasPair related (b :: rest)
  | _ => false

-- A space before or after a line break is lost unless it is escaped or belongs to a block.
def spaceThenBreak (cs : List Char) : Bool := hasPair (fun a b => a == ' ' && isBreak b) cs

def breakThenSpace (cs : List Char) : Bool := hasPair (fun a b => isBreak a && b == ' ') cs

def hasUnprintable (cs : List Char) : Bool := cs.any fun c => !isPrintable c

def startsAsSign (cs : List Char) : Bool :=
  match cs with
  | [] => false
  | c :: rest =>
    "#,[]\x7b\x7d&*!|>'\"%@`".toList.contains c ||
      ((c == '?' || c == ':' || c == '-') && startsBlank rest) ||
      cs.take 3 == ['-', '-', '-'] || cs.take 3 == ['.', '.', '.']

def hasSignInside (cs : List Char) : Bool :=
  cs.tail.getLast? == some ':' ||
    hasPair (fun a b => a == ':' && isBlankOrBreak b) cs.tail ||
    hasPair (fun a b => isBlankOrBreak a && b == '#') cs

def isEdge (c : Char) : Bool := c == ' ' || isBreak c

def plainAllowed (cs : List Char) : Bool :=
  !cs.head?.any isEdge && !cs.getLast?.any isEdge && !cs.any isBreak && !hasUnprintable cs &&
    !startsAsSign cs && !hasSignInside cs

def singleAllowed (cs : List Char) : Bool :=
  !breakThenSpace cs && !spaceThenBreak cs && !hasUnprintable cs

def blockAllowed (cs : List Char) : Bool :=
  cs.getLast? != some ' ' && !spaceThenBreak cs && !hasUnprintable cs

def readsOtherwise (text : String) : Bool :=
  isPadded text.toList ||
    match plain? text with
    | some (.str _) => false
    | _ => true

def spaces (count : Nat) : List Char := List.replicate count ' '

def single (indent : Nat) (afterBreak : Bool) : List Char → List Char
  | [] => if afterBreak then spaces indent else []
  | c :: rest =>
    if isBreak c then c :: single indent true rest
    else
      let lead := if afterBreak then spaces indent else []
      lead ++ (if c == '\'' then ['\'', '\''] else [c]) ++ single indent false rest

def hexDigits (width n : Nat) : List Char :=
  let digits := (Nat.toDigits 16 n).map Char.toUpper
  List.replicate (width - digits.length) '0' ++ digits

def escapeLetters : List (Char × Char) :=
  [('\x00', '0'), ('\x07', 'a'), ('\x08', 'b'), ('\t', 't'), ('\n', 'n'), ('\x0b', 'v'),
   ('\x0c', 'f'), ('\r', 'r'), ('\x1b', 'e'), ('"', '"'), ('\\', '\\'), ('\x85', 'N'),
   ('\xa0', '_'), ('\u2028', 'L'), ('\u2029', 'P')]

def escaped (c : Char) : List Char :=
  match escapeLetters.lookup c with
  | some letter => ['\\', letter]
  | none =>
    let n := c.toNat
    if n ≤ 0xFF then '\\' :: 'x' :: hexDigits 2 n
    else if n ≤ 0xFFFF then '\\' :: 'u' :: hexDigits 4 n
    else '\\' :: 'U' :: hexDigits 8 n

def double (cs : List Char) : List Char :=
  cs.flatMap fun c =>
    if !isPrintable c || isBreak c || c == '"' || c == '\\' then escaped c else [c]

-- What stands after the sign of a block: an indentation where the text does not show it, and what
-- happens to the line breaks at the end.
def blockHeader (cs : List Char) : List Char :=
  let indentation := if cs.head?.any isEdge then ['2'] else []
  let chomping := match cs.reverse with
    | [] => ['-']
    | [last] => if isBreak last then ['+'] else ['-']
    | last :: before :: _ =>
      if !isBreak last then ['-'] else if isBreak before then ['+'] else []
  indentation ++ chomping

def blockLines (indent : Nat) (afterBreak : Bool) : List Char → List Char
  | [] => if afterBreak then [] else ['\n']
  | c :: rest =>
    if isBreak c then c :: blockLines indent true rest
    else (if afterBreak then spaces indent else []) ++ c :: blockLines indent false rest

def write (indent : Nat) (text : String) : String :=
  let cs := text.toList
  let doubled := '"' :: double cs ++ ['"', '\n']
  String.ofList <|
    if cs.contains '\n' then
      if blockAllowed cs then '|' :: blockHeader cs ++ '\n' :: blockLines indent true cs
      else doubled
    else if plainAllowed cs && !readsOtherwise text then cs ++ ['\n']
    else if singleAllowed cs then '\'' :: single indent false cs ++ ['\'', '\n']
    else doubled

end ClientGen.Yaml.Scalar
