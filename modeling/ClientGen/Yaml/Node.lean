namespace ClientGen.Yaml

inductive Node where
  | scalar (tag : Option String) (text : String) (plain : Bool)
  | alias (anchor : Nat)
  | sequence (tag : Option String) (items : List Node)
  | mapping (tag : Option String) (entries : List (Node × Node))
  deriving Inhabited

-- A document keeps the nodes that have anchors in the order in which they start, and the place among
-- them that each number stands for, the latest one first.
structure Document where
  root : Node
  anchored : Array Node
  places : List (Nat × Nat)
  deriving Inhabited

def Document.target? (document : Document) (number : Nat) : Option Node :=
  (document.places.lookup number).bind fun place => document.anchored[place]?

def Node.empty : Node := .scalar none "" true

mutual

-- The number of steps in which a node is read: one for each scalar and alias, and two for each
-- collection.
def Node.events : Node → Nat
  | .scalar .. => 1
  | .alias _ => 1
  | .sequence _ items => 2 + eventsOf items
  | .mapping _ entries => 2 + entryEventsOf entries

def eventsOf : List Node → Nat
  | [] => 0
  | item :: rest => item.events + eventsOf rest

def entryEventsOf : List (Node × Node) → Nat
  | [] => 0
  | (key, value) :: rest => key.events + value.events + entryEventsOf rest

end

end ClientGen.Yaml
