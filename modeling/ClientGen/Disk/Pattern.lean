import ClientGen.Disk.Path
import ClientGen.Text.Segment

namespace ClientGen

namespace Pattern

inductive Piece where
  | char (c : Char)
  | any
  | star
  | oneOf (negated : Bool) (ranges : List (Char × Char))
  deriving DecidableEq, Repr, Inhabited

def Piece.accepts (c : Char) : Piece → Bool
  | .char x => c == x
  | .any => true
  | .star => true
  | .oneOf negated ranges => (ranges.any fun (low, high) => low ≤ c && c ≤ high) != negated

-- The ranges up to a closing bracket, which counts as a character if it comes first.
def ranges? (first : Bool) : List Char → Option (List (Char × Char) × List Char)
  | [] => none
  | low :: '-' :: high :: rest =>
    if low == ']' && !first then some ([], '-' :: high :: rest)
    else if high == ']' then some ([(low, low), ('-', '-')], rest)
    else (ranges? false rest).map fun (later, rest) => ((low, high) :: later, rest)
  | c :: rest =>
    if c == ']' && !first then some ([], rest)
    else (ranges? false rest).map fun (later, rest) => ((c, c) :: later, rest)

def oneOf? (cs : List Char) : Option (Piece × List Char) :=
  let (negated, cs) := match cs with
    | '!' :: rest => (true, rest)
    | '^' :: rest => (true, rest)
    | rest => (false, rest)
  (ranges? true cs).map fun (ranges, rest) => (.oneOf negated ranges, rest)

def product (front back : List (List Piece)) : List (List Piece) :=
  front.flatMap fun pieces => back.map (pieces ++ ·)

-- A text has several readings if it has braces in it.

mutual

def readings? (inBraces : Bool) (fuel : Nat) (cs : List Char) :
    Option (List (List Piece) × List Char) :=
  match fuel with
  | 0 => none
  | fuel + 1 =>
    let after := fun (front : List (List Piece)) (rest : List Char) =>
      (readings? inBraces fuel rest).map fun (back, rest) => (product front back, rest)
    match cs with
    | [] => if inBraces then none else some ([[]], [])
    | '{' :: rest =>
      match alternatives? fuel rest with
      | some (front, rest) => after front rest
      | none => none
    | '}' :: rest => if inBraces then some ([[]], '}' :: rest) else none
    | '[' :: rest =>
      match oneOf? rest with
      | some (piece, rest) => after [[piece]] rest
      | none => none
    | '\\' :: c :: rest => after [[.char c]] rest
    | ['\\'] => none
    | '?' :: rest => after [[.any]] rest
    | '*' :: rest => after [[.star]] rest
    | c :: rest =>
      if c == ',' && inBraces then some ([[]], c :: rest) else after [[.char c]] rest

def alternatives? (fuel : Nat) (cs : List Char) : Option (List (List Piece) × List Char) :=
  match fuel with
  | 0 => none
  | fuel + 1 =>
    match readings? true fuel cs with
    | some (first, '}' :: rest) => some (first, rest)
    | some (first, ',' :: rest) =>
      (alternatives? fuel rest).map fun (later, rest) => (first ++ later, rest)
    | _ => none

end

def splitNames : List Piece → List (List Piece)
  | [] => [[]]
  | piece :: rest =>
    if piece = .char '/' then [] :: splitNames rest
    else match splitNames rest with
      | [] => [[piece]]
      | first :: later => (piece :: first) :: later

def matchesName (pieces : List Piece) (cs : List Char) : Bool :=
  match pieces, cs with
  | [], cs => cs.isEmpty
  | .star :: pieces, [] => matchesName pieces []
  | .star :: pieces, c :: cs => matchesName pieces (c :: cs) || matchesName (.star :: pieces) cs
  | _ :: _, [] => false
  | piece :: pieces, c :: cs => piece.accepts c && matchesName pieces cs
termination_by pieces.length + cs.length

def matchesNames (pattern : List (List Piece)) (names : List String) : Bool :=
  match pattern, names with
  | [], names => names.isEmpty
  | pieces :: pattern, [] => pieces == [.star, .star] && matchesNames pattern []
  | pieces :: pattern, name :: names =>
    if pieces == [.star, .star] then
      matchesNames pattern (name :: names) || matchesNames (pieces :: pattern) names
    else matchesName pieces name.toList && matchesNames pattern names
termination_by pattern.length + names.length

end Pattern

-- Whether the names of a path match a pattern. A text that is no pattern matches nothing.
def Path.fits (pattern : String) (names : List String) : Bool :=
  let cs := pattern.toList
  match Pattern.readings? false (2 * cs.length + 1) cs with
  | some (readings, _) => readings.any fun r => Pattern.matchesNames (Pattern.splitNames r) names
  | none => false

end ClientGen
