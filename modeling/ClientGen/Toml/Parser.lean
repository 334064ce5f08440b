import ClientGen.Toml.Number
import ClientGen.Toml.Table
import ClientGen.Toml.Text

namespace ClientGen.Toml

def isKeyChar (c : Char) : Bool := c.isAlphanum || c == '_' || c == '-'

def simpleKey? (cs : List Char) : Option (String × List Char) :=
  match cs with
  | '"' :: rest => Quoted.line? '"' (rest.length + 1) [] rest
  | '\'' :: rest => Quoted.line? '\'' (rest.length + 1) [] rest
  | cs =>
    let name := cs.takeWhile isKeyChar
    if name.isEmpty then none else some (String.ofList name, cs.drop name.length)

-- How deep lists and inline tables nest, and the greatest number of names in a key.
def nesting : Nat := 79

-- A key after the names in `path`: names between dots. The last name comes apart from those before it.
-- At most `more + 1` names may still come.
def keyAfter? (more : Nat) (path : List String) (cs : List Char) :
    Option (List String × String × List Char) := do
  let (name, rest) ← simpleKey? (skipBlank cs)
  match skipBlank rest, more with
  | '.' :: _, 0 => none
  | '.' :: rest, more + 1 => keyAfter? more (path ++ [name]) rest
  | rest, _ => pure (path, name, rest)

def key? (cs : List Char) : Option (List String × String × List Char) :=
  keyAfter? (nesting - 1) [] cs

mutual

def value? (fuel depth : Nat) (cs : List Char) : Option (Json × List Char) :=
  match fuel with
  | 0 => none
  | fuel + 1 =>
    match cs with
    | '"' :: rest => (Quoted.string? '"' rest).map fun (s, r) => (.str s, r)
    | '\'' :: rest => (Quoted.string? '\'' rest).map fun (s, r) => (.str s, r)
    | '[' :: rest =>
      match depth with
      | 0 => none
      | depth + 1 => (items? fuel depth rest).map fun (items, r) => (.arr items, r)
    | '{' :: rest =>
      match depth with
      | 0 => none
      | depth + 1 =>
        match skipBlank rest with
        | '}' :: rest => some (.obj [], rest)
        | rest => (pairs? fuel depth [] rest).map fun (table, r) => (.obj (fieldsOf table), r)
    | cs =>
      let text := scalarText cs
      (scalar? text).map fun v => (v, cs.drop text.length)

def items? (fuel depth : Nat) (cs : List Char) : Option (List Json × List Char) :=
  match fuel with
  | 0 => none
  | fuel + 1 =>
    match skipLines (cs.length + 1) cs with
    | ']' :: rest => some ([], rest)
    | rest =>
      match value? fuel depth rest with
      | none => none
      | some (v, rest) =>
        match skipLines (rest.length + 1) rest with
        | ',' :: rest => (items? fuel depth rest).map fun (vs, r) => (v :: vs, r)
        | ']' :: rest => some ([v], rest)
        | _ => none

def pairs? (fuel depth : Nat) (table : Table) (cs : List Char) : Option (Table × List Char) :=
  match fuel with
  | 0 => none
  | fuel + 1 =>
    match key? cs with
    | some (path, key, '=' :: rest) =>
      match value? fuel depth (skipBlank rest) with
      | none => none
      | some (v, rest) =>
        match table.addValue? path key v with
        | none => none
        | some table =>
          match skipBlank rest with
          | ',' :: rest => pairs? fuel depth table rest
          | '}' :: rest => some (table, rest)
          | _ => none
    | _ => none

end

structure Progress where
  root : Table
  current : List String
  deriving Inhabited

def header? (p : Progress) (cs : List Char) : Option (Progress × List Char) :=
  match cs with
  | '[' :: rest => do
    let (path, key, rest) ← key? rest
    match rest with
    | ']' :: ']' :: rest =>
      pure ({ root := ← p.root.addTable? path key, current := path ++ [key] }, rest)
    | _ => none
  | cs => do
    let (path, key, rest) ← key? cs
    match rest with
    | ']' :: rest =>
      pure ({ root := ← p.root.openTable? path key, current := path ++ [key] }, rest)
    | _ => none

def pair? (p : Progress) (cs : List Char) : Option (Progress × List Char) := do
  let (path, key, rest) ← key? cs
  match rest with
  | '=' :: rest =>
    let rest := skipBlank rest
    let (v, rest) ← value? (2 * rest.length + 2) nesting rest
    let add := fun (_ : Origin) (table : Table) => table.addValue? path key v
    pure ({ p with root := ← p.root.within? false add .header p.current }, rest)
  | _ => none

def document? (fuel : Nat) (p : Progress) (cs : List Char) : Option Table :=
  match fuel with
  | 0 => none
  | fuel + 1 =>
    let step := match skipBlank cs with
      | '[' :: rest => header? p rest
      | '#' :: rest => some (p, '#' :: rest)
      | '\n' :: rest => some (p, '\n' :: rest)
      | '\r' :: rest => some (p, '\r' :: rest)
      | [] => some (p, [])
      | rest => pair? p rest
    match step with
    | none => none
    | some (p, rest) =>
      match lineEnd? rest with
      | none => none
      | some [] => some p.root
      | some rest => document? fuel p rest

def parse? (text : String) : Option Json :=
  let cs := match text.toList with
    | '\uFEFF' :: rest => rest
    | cs => cs
  (document? (cs.length + 1) { root := [], current := [] } cs).map fun table =>
    .obj (fieldsOf table)

end ClientGen.Toml
