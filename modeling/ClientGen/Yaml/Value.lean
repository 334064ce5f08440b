import ClientGen.Number.Radix
import ClientGen.Number.Read
import ClientGen.Yaml.Stream

namespace ClientGen.Yaml

namespace Scalar

def isNull (text : String) : Bool := ["null", "Null", "NULL", "~"].contains text

def bool? (text : String) : Option Bool :=
  if ["true", "True", "TRUE"].contains text then some true
  else if ["false", "False", "FALSE"].contains text then some false
  else none

def withoutSign : List Char → List Char
  | '+' :: rest => rest
  | '-' :: rest => rest
  | cs => cs

def isPadded (cs : List Char) : Bool :=
  match withoutSign cs with
  | '0' :: c :: rest => (c :: rest).all Char.isDigit
  | _ => false

def natural? (cs : List Char) : Option Nat :=
  match cs with
  | '0' :: 'x' :: digits => Radix.nat? 16 digits
  | '0' :: 'o' :: digits => Radix.nat? 8 digits
  | '0' :: 'b' :: digits => Radix.nat? 2 digits
  | digits => Radix.nat? 10 digits

def whole? (cs : List Char) : Option Int :=
  if isPadded cs then none
  else
    match cs with
    | '-' :: rest => (natural? rest).map fun n => -(n : Int)
    | '+' :: rest => (natural? rest).map fun n => (n : Int)
    | rest => (natural? rest).map fun n => (n : Int)

def float? (cs : List Char) : Option Binary64 :=
  let unsigned := match cs with
    | '+' :: rest => rest
    | rest => rest
  let text := String.ofList unsigned
  if cs.head? == some '+' && (unsigned.head? == some '+' || unsigned.head? == some '-') then none
  else if [".inf", ".Inf", ".INF"].contains text then some (.infinite false)
  else if ["-.inf", "-.Inf", "-.INF"].contains (String.ofList cs) then some (.infinite true)
  else if [".nan", ".NaN", ".NAN"].contains (String.ofList cs) then some .nan
  else (Binary64.read? unsigned).filter Binary64.isFinite

def ofFloat (x : Binary64) : Json := if x.isFinite then .num (.float x) else .null

-- Whole numbers have 64 bits. Longer ones are refused up to 128 bits, and floats beyond.
def ofWhole? (i : Int) : Option (Option Json) :=
  if Word.leastSigned ≤ i ∧ i ≤ Word.greatestUnsigned then some (some (.num (.int i)))
  else if -(twoTo 127 : Int) ≤ i ∧ i < twoTo 128 then some none
  else none

def plain? (text : String) : Option Json :=
  if text.isEmpty || isNull text then some .null
  else
    match bool? text with
    | some b => some (.bool b)
    | none =>
      let cs := text.toList
      match (whole? cs).bind ofWhole? with
      | some value => value
      | none =>
        if isPadded cs then some (.str text)
        else some (((float? cs).map ofFloat).getD (.str text))

def coreTag (name : String) : String := "tag:yaml.org,2002:" ++ name

def isPrivate (tag : Option String) : Bool := tag.any fun t => t.startsWith "!"

-- The value of a scalar. A tag of the core types wants a text of that type.
def value? (tag : Option String) (text : String) (plain : Bool) : Option Json :=
  match tag with
  | none => if plain then plain? text else some (.str text)
  | some name =>
    if isPrivate tag then none
    else if name = coreTag "bool" then (bool? text).map .bool
    else if name = coreTag "int" then (whole? text.toList).bind fun i => (ofWhole? i).join
    else if name = coreTag "float" then (float? text.toList).map ofFloat
    else if name = coreTag "null" then if isNull text then some .null else none
    else some (.str text)

end Scalar

-- Reading a document: the state is the number of aliases that may still be followed.
abbrev Reading (α : Type) := StateT Nat Option α

namespace Document

-- How deep collections nest, aliases counted with what they refer to.
def nesting : Nat := 128

def follow? (document : Document) : Node → Reading Node
  | .alias number => do
    match ← get with
    | 0 => failure
    | left + 1 =>
      set left
      match document.target? number with
      | some node => pure node
      | none => failure
  | node => pure node

def text? (document : Document) (node : Node) : Reading String := do
  match ← document.follow? node with
  | .scalar _ text _ => pure text
  | _ => failure

def valueOf? (document : Document) : Nat → Node → Reading Json
  | 0, node => do
    match ← document.follow? node with
    | .scalar tag text plain => liftM (Scalar.value? tag text plain)
    | _ => failure
  | depth + 1, node => do
    match ← document.follow? node with
    | .scalar tag text plain => liftM (Scalar.value? tag text plain)
    | .sequence tag items =>
      if Scalar.isPrivate tag then failure
      return .arr (← items.mapM (valueOf? document depth))
    | .mapping tag entries =>
      if Scalar.isPrivate tag then failure
      let fields ← entries.mapM fun (key, value) => do
        return (← document.text? key, ← valueOf? document depth value)
      return .obj (fields.foldl (fun fs (key, value) => Fields.put fs key value) [])
    | .alias _ => failure

def value? (document : Document) : Option Json :=
  (valueOf? document nesting document.root).run' (100 * document.root.events)

end Document

def parse? (text : String) : Option Json := (read? text).bind Document.value?

end ClientGen.Yaml
