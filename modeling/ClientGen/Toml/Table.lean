import ClientGen.Json.Basic

namespace ClientGen.Toml

inductive Origin where
  | header
  | implied
  | dotted
  deriving DecidableEq, Repr, Inhabited

inductive Item where
  | value (v : Json)
  | table (origin : Origin) (entries : List (String × Item))
  | tables (all : List (List (String × Item)))
  deriving Inhabited

abbrev Table := List (String × Item)

mutual

def Item.toJson : Item → Json
  | .value v => v
  | .table _ entries => .obj (fieldsOf entries)
  | .tables all => .arr (objectsOf all).reverse

def fieldsOf : List (String × Item) → List (String × Json)
  | [] => []
  | (key, item) :: rest => (key, item.toJson) :: fieldsOf rest

def objectsOf : List (List (String × Item)) → List Json
  | [] => []
  | entries :: rest => .obj (fieldsOf entries) :: objectsOf rest

end

namespace Table

def put (key : String) (item : Item) : Table → Table
  | [] => [(key, item)]
  | (k, old) :: rest => if k = key then (k, item) :: rest else (k, old) :: put key item rest

-- Changes the table at the end of a path. Tables on the way are made where there are none, and a list of
-- tables stands for its last one.
def within? (dotted : Bool) (change : Origin → Table → Option Table) (origin : Origin)
    (table : Table) : List String → Option Table
  | [] => change origin table
  | key :: path =>
    match table.lookup key with
    | none =>
      let origin := if dotted then .dotted else .implied
      (within? dotted change origin [] path).map fun inner => table.put key (.table origin inner)
    | some (.table origin inner) =>
      if dotted && origin == .header then none
      else
        (within? dotted change origin inner path).map fun inner =>
          table.put key (.table origin inner)
    | some (.tables (last :: before)) =>
      (within? dotted change .header last path).map fun last =>
        table.put key (.tables (last :: before))
    | some _ => none

def addValue? (path : List String) (key : String) (value : Json) (table : Table) : Option Table :=
  within? true
    (fun origin table =>
      if (origin == .dotted) == path.isEmpty || (table.lookup key).isSome then none
      else some (table.put key (.value value)))
    .header table path

def openTable? (path : List String) (key : String) (table : Table) : Option Table :=
  within? false
    (fun _ table =>
      match table.lookup key with
      | none => some (table.put key (.table .header []))
      | some (.table .implied inner) => some (table.put key (.table .header inner))
      | some _ => none)
    .header table path

def addTable? (path : List String) (key : String) (table : Table) : Option Table :=
  within? false
    (fun _ table =>
      match table.lookup key with
      | none => some (table.put key (.tables [[]]))
      | some (.tables all) => some (table.put key (.tables ([] :: all)))
      | some _ => none)
    .header table path

end Table

end ClientGen.Toml
