import ClientGen.Yaml.Node
import ClientGen.Yaml.Token

namespace ClientGen.Yaml

-- The tokens that are left, what handles of tags stand for, the numbers that the names of anchors refer
-- to, and the anchored nodes with their places by number. One that is not finished yet is empty.
structure NodeReader where
  tokens : List Token
  handles : List (String × String)
  anchors : List (String × Nat)
  anchored : Array Node
  places : List (Nat × Nat)
  deriving Inhabited

namespace NodeReader

def drop (s : NodeReader) (count : Nat) : NodeReader := { s with tokens := s.tokens.drop count }

def tag? (s : NodeReader) (handle suffix : String) : Option String :=
  if handle.isEmpty then some suffix else (s.handles.lookup handle).map (· ++ suffix)

def properties? (s : NodeReader) : Option (Option String × Option String × NodeReader) :=
  match s.tokens with
  | .anchor name :: .tag handle suffix :: _ =>
    (s.tag? handle suffix).map fun tag => (some name, some tag, s.drop 2)
  | .tag handle suffix :: .anchor name :: _ =>
    (s.tag? handle suffix).map fun tag => (some name, some tag, s.drop 2)
  | .anchor name :: _ => some (some name, none, s.drop 1)
  | .tag handle suffix :: _ => (s.tag? handle suffix).map fun tag => (none, some tag, s.drop 1)
  | _ => some (none, none, s)

-- Reserves a place for a node with an anchor, to which the name refers from then on. Its number is the
-- number of different names before it, so that a name that is used again shares its number with the next
-- new name.
def openAnchor (s : NodeReader) : Option String → NodeReader
  | some name =>
    let number := s.anchors.length
    { s with
      anchors := (name, number) :: s.anchors.filter fun (other, _) => other != name
      anchored := s.anchored.push .empty
      places := (number, s.anchored.size) :: s.places }
  | none => s

def closeAnchor (place : Nat) (anchor : Option String) (node : Node) (s : NodeReader) : NodeReader :=
  match anchor with
  | some _ => { s with anchored := s.anchored.setIfInBounds place node }
  | none => s

def endsBlockEntry : List Token → Bool
  | .blockEntry :: _ | .key :: _ | .value :: _ | .blockEnd :: _ => true
  | _ => false

def endsItem : List Token → Bool
  | .blockEntry :: _ | .blockEnd :: _ => true
  | _ => false

def endsBlockKey : List Token → Bool
  | .key :: _ | .value :: _ | .blockEnd :: _ => true
  | _ => false

def endsPair : List Token → Bool
  | .flowEntry :: _ | .flowSequenceEnd :: _ => true
  | _ => false

def endsFlowKey : List Token → Bool
  | .value :: _ | .flowEntry :: _ | .flowMappingEnd :: _ => true
  | _ => false

def endsFlowValue : List Token → Bool
  | .flowEntry :: _ | .flowMappingEnd :: _ => true
  | _ => false

def separated? (first : Bool) (s : NodeReader) : Option NodeReader :=
  match s.tokens with
  | .flowEntry :: _ => if first then some s else some (s.drop 1)
  | _ => if first then some s else none

mutual

-- A node. In a block, it may be a block itself; as the value of a key it may be a list that is not
-- indented.
def node? (inBlock indentless : Bool) (fuel : Nat) (s : NodeReader) : Option (Node × NodeReader) :=
  match fuel with
  | 0 => none
  | fuel + 1 =>
    match s.tokens with
    | .alias name :: _ => (s.anchors.lookup name).map fun number => (.alias number, s.drop 1)
    | _ =>
      match s.properties? with
      | none => none
      | some (anchor, tag, s) =>
        let place := s.anchored.size
        let hasProperties := anchor.isSome || tag.isSome
        (content? inBlock indentless hasProperties tag fuel (s.openAnchor anchor)).map
          fun (node, s) => (node, s.closeAnchor place anchor node)

def content? (inBlock indentless hasProperties : Bool) (tag : Option String) (fuel : Nat)
    (s : NodeReader) : Option (Node × NodeReader) :=
  match fuel with
  | 0 => none
  | fuel + 1 =>
    let left := if hasProperties then some (Node.scalar tag "" true, s) else none
    match s.tokens with
    | .blockEntry :: _ =>
      if indentless then
        (indentlessItems? fuel s).map fun (items, s) => (.sequence tag items, s)
      else left
    | .scalar text plain :: _ =>
      some (.scalar tag text plain, s.drop 1)
    | .flowSequenceStart :: _ =>
      (flowItems? true fuel (s.drop 1)).map fun (items, s) => (.sequence tag items, s)
    | .flowMappingStart :: _ =>
      (flowEntries? true fuel (s.drop 1)).map fun (entries, s) => (.mapping tag entries, s)
    | .blockSequenceStart :: _ =>
      if inBlock then
        (blockItems? fuel (s.drop 1)).map fun (items, s) => (.sequence tag items, s)
      else left
    | .blockMappingStart :: _ =>
      if inBlock then
        (blockEntries? fuel (s.drop 1)).map fun (entries, s) => (.mapping tag entries, s)
      else left
    | _ => left

def optionalNode? (inBlock indentless : Bool) (ends : List Token → Bool) (fuel : Nat)
    (s : NodeReader) : Option (Node × NodeReader) :=
  match fuel with
  | 0 => none
  | fuel + 1 => if ends s.tokens then some (.empty, s) else node? inBlock indentless fuel s

def blockItems? (fuel : Nat) (s : NodeReader) : Option (List Node × NodeReader) :=
  match fuel with
  | 0 => none
  | fuel + 1 =>
    match s.tokens with
    | .blockEnd :: _ => some ([], s.drop 1)
    | .blockEntry :: _ => do
      let (item, s) ← optionalNode? true false endsItem fuel (s.drop 1)
      let (items, s) ← blockItems? fuel s
      some (item :: items, s)
    | _ => none

def indentlessItems? (fuel : Nat) (s : NodeReader) : Option (List Node × NodeReader) :=
  match fuel with
  | 0 => none
  | fuel + 1 =>
    match s.tokens with
    | .blockEntry :: _ => do
      let (item, s) ← optionalNode? true false endsBlockEntry fuel (s.drop 1)
      let (items, s) ← indentlessItems? fuel s
      some (item :: items, s)
    | _ => some ([], s)

def blockEntries? (fuel : Nat) (s : NodeReader) : Option (List (Node × Node) × NodeReader) :=
  match fuel with
  | 0 => none
  | fuel + 1 =>
    match s.tokens with
    | .blockEnd :: _ => some ([], s.drop 1)
    | .key :: _ => do
      let (key, s) ← optionalNode? true true endsBlockKey fuel (s.drop 1)
      let (value, s) ← valueAfter? true endsBlockKey fuel s
      let (entries, s) ← blockEntries? fuel s
      some ((key, value) :: entries, s)
    | _ => none

def valueAfter? (inBlock : Bool) (ends : List Token → Bool) (fuel : Nat) (s : NodeReader) :
    Option (Node × NodeReader) :=
  match fuel with
  | 0 => none
  | fuel + 1 =>
    match s.tokens with
    | .value :: _ => optionalNode? inBlock inBlock ends fuel (s.drop 1)
    | _ => some (.empty, s)

-- The items of a flow sequence, which commas separate. A key makes an item a mapping of its own.
def flowItems? (first : Bool) (fuel : Nat) (s : NodeReader) : Option (List Node × NodeReader) :=
  match fuel with
  | 0 => none
  | fuel + 1 =>
    match s.tokens with
    | .flowSequenceEnd :: _ => some ([], s.drop 1)
    | _ =>
      match separated? first s with
      | none => none
      | some s =>
        match s.tokens with
        | .flowSequenceEnd :: _ => some ([], s.drop 1)
        | .key :: _ => do
          let (entry, s) ← pair? fuel (s.drop 1)
          let (items, s) ← flowItems? false fuel s
          some (.mapping none [entry] :: items, s)
        | _ => do
          let (item, s) ← node? false false fuel s
          let (items, s) ← flowItems? false fuel s
          some (item :: items, s)

-- A key in a flow sequence with its value. A key that is left out takes the next token with it.
def pair? (fuel : Nat) (s : NodeReader) : Option ((Node × Node) × NodeReader) :=
  match fuel with
  | 0 => none
  | fuel + 1 =>
    let key := match s.tokens with
      | .value :: _ | .flowEntry :: _ | .flowSequenceEnd :: _ => some (Node.empty, s.drop 1)
      | _ => node? false false fuel s
    match key with
    | none => none
    | some (key, s) =>
      (valueAfter? false endsPair fuel s).map fun (value, s) => ((key, value), s)

def flowEntries? (first : Bool) (fuel : Nat) (s : NodeReader) :
    Option (List (Node × Node) × NodeReader) :=
  match fuel with
  | 0 => none
  | fuel + 1 =>
    match s.tokens with
    | .flowMappingEnd :: _ => some ([], s.drop 1)
    | _ =>
      match separated? first s with
      | none => none
      | some s =>
        match s.tokens with
        | .flowMappingEnd :: _ => some ([], s.drop 1)
        | .key :: _ => do
          let (key, s) ← optionalNode? false false endsFlowKey fuel (s.drop 1)
          let (value, s) ← valueAfter? false endsFlowValue fuel s
          let (entries, s) ← flowEntries? false fuel s
          some ((key, value) :: entries, s)
        | _ => do
          let (key, s) ← node? false false fuel s
          let (entries, s) ← flowEntries? false fuel s
          some ((key, .empty) :: entries, s)

end

end NodeReader

end ClientGen.Yaml
