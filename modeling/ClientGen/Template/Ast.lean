import ClientGen.Json.Basic

namespace ClientGen.Template

inductive Step where
  | key (name : String)
  | held (root : String) (steps : List Step)
  deriving Inhabited

structure Lookup where
  root : String
  steps : List Step
  deriving Inhabited

def Lookup.of (root : String) (keys : List String) : Lookup := ⟨root, keys.map .key⟩

inductive Literal where
  | text (s : String)
  | int (i : Int)
  | float (x : Binary64)
  | bool (b : Bool)
  deriving DecidableEq, Repr, Inhabited

inductive Part where
  | literal (value : Literal)
  | lookup (path : Lookup)
  | call (function : String)
  deriving Inhabited

mutual

inductive Expr where
  | mk (term : Term) (filters : List Filter) (negated : Bool)

inductive Term where
  | literal (value : Literal)
  | lookup (path : Lookup)
  -- The call of a function. The standard engine knows none, so the arguments do not matter to it.
  | call (function : String)
  | concat (parts : List Part)
  | list (items : List Expr)
  | equal (left right : Expr)
  | unequal (left right : Expr)
  | both (left right : Expr)
  | either (left right : Expr)
  | test (path : Lookup) (name : String) (arguments : List Expr) (negated : Bool)

inductive Filter where
  | mk (name : String) (arguments : List (String × Expr))

end

instance : Inhabited Term := ⟨.literal (.bool false)⟩
instance : Inhabited Expr := ⟨.mk default [] false⟩

def Expr.ofTerm (term : Term) : Expr := .mk term [] false

inductive Node where
  | text (s : String)
  | print (e : Expr)
  | set (name : String) (whole : Bool) (e : Expr)
  | cond (branches : List (Expr × List Node)) (otherwise : List Node)
  | loop (item : String) (key : Option String) (container : Expr) (body otherwise : List Node)

instance : Inhabited Node := ⟨.text ""⟩

end ClientGen.Template
