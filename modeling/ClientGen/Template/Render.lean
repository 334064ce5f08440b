import ClientGen.Json.Pointer
import ClientGen.Json.Printer
import ClientGen.Number.Radix
import ClientGen.Number.Read
import ClientGen.Template.Ast
import ClientGen.Text.Cluster
import ClientGen.Text.Segment

namespace ClientGen.Template

-- A turn of a loop: the names of its key and of its item, what they stand for, how many turns came
-- before and how many there are in all, and what the body has assigned in this turn.
structure Frame where
  keyName : Option String
  itemName : String
  key : String
  item : Json
  position : Nat
  count : Nat
  locals : Fields
  deriving Inhabited

structure Scope where
  loops : List Frame
  globals : Fields
  context : Fields
  deriving Inhabited

def valueIn? (values : Fields) (root : String) (keys : List String) : Option Json :=
  (values.lookup root).bind fun value => value.descend? keys

def Frame.turn? (frame : Frame) : List String → Option Json
  | ["index"] => some (Json.ofNat (frame.position + 1))
  | ["index0"] => some (Json.ofNat frame.position)
  | ["first"] => some (.bool (frame.position == 0))
  | ["last"] => some (.bool (frame.position + 1 == frame.count))
  | _ => none

def Frame.own? (frame : Frame) (root : String) (keys : List String) : Option Json :=
  if keys.isEmpty && frame.keyName == some root then some (.str frame.key)
  else if root = "loop" then frame.turn? keys
  else if root = frame.itemName then frame.item.descend? keys
  else none

def Frame.lookup? (frame : Frame) (root : String) (keys : List String) : Option Json :=
  match valueIn? frame.locals root keys with
  | some value => some value
  | none => frame.own? root keys

-- The value of a variable: what the innermost loop has assigned or gives, the loops around it, what the
-- template has assigned, the context.
def Scope.get? (scope : Scope) (root : String) (keys : List String) : Option Json :=
  match scope.loops.findSome? fun frame => frame.lookup? root keys with
  | some value => some value
  | none =>
    match valueIn? scope.globals root keys with
    | some value => some value
    | none => valueIn? scope.context root keys

def plainText? : Json → Option String
  | .str s => some s
  | .num n => some n.text
  | _ => none

def dotted (s : String) : List String := (Text.pieces '.' s.toList).map String.ofList

-- The keys that a value stands for in brackets: a text is one key, and a number as many as its text has
-- parts between dots.
def keysFor? : Json → Option (List String)
  | .str s => some [s]
  | .num n => some (dotted n.text)
  | _ => none

mutual

def Step.keys? (scope : Scope) : Step → Option (List String)
  | .key name => some [name]
  | .held root steps =>
    match keysOf? scope steps with
    | none => none
    | some keys => (scope.get? root keys).bind keysFor?

def keysOf? (scope : Scope) : List Step → Option (List String)
  | [] => some []
  | step :: rest =>
    match Step.keys? scope step, keysOf? scope rest with
    | some first, some later => some (first ++ later)
    | _, _ => none

end

def Scope.lookup? (scope : Scope) (path : Lookup) : Option Json :=
  (keysOf? scope path.steps).bind fun keys => scope.get? path.root keys

def Scope.assign (scope : Scope) (name : String) (value : Json) : Scope :=
  match scope.loops with
  | [] => { scope with globals := scope.globals.put name value }
  | f :: fs => { scope with loops := { f with locals := f.locals.put name value } :: fs }

def Scope.assignGlobal (scope : Scope) (name : String) (value : Json) : Scope :=
  { scope with globals := scope.globals.put name value }

def numberText : Number → String
  | .int i => toString i
  | .float x => x.text Binary64.plainLayout

mutual

def valueText : Json → String
  | .null => ""
  | .bool b => if b then "true" else "false"
  | .num n => numberText n
  | .str s => s
  | .arr items => "[" ++ itemsText items ++ "]"
  | .obj _ => "[object]"

def itemsText : List Json → String
  | [] => ""
  | [v] => valueText v
  | v :: vs => valueText v ++ ", " ++ itemsText vs

end

def isTrue : Json → Bool
  | .null => false
  | .bool b => b
  | .num (.int i) => i != 0
  | .num (.float x) => !x.isZero
  | .str s => s != ""
  | .arr items => !items.isEmpty
  | .obj fields => !fields.isEmpty

-- A number equals only a number. Two numbers are compared as floats; numbers within lists and objects
-- are not.
def equalValues : Json → Json → Bool
  | .num a, .num b => a.toBinary64.sameValue b.toBinary64
  | a, b => a.same b

def isNumber : Json → Bool
  | .num _ => true
  | _ => false

-- Whether two values can be compared. A number and a value of another kind are neither equal nor
-- unequal, and as conditions the negations of both fail as well.
def areComparable (a b : Json) : Bool := isNumber a == isNumber b

def unequalValues (a b : Json) : Bool := areComparable a b && !equalValues a b

def Literal.value : Literal → Json
  | .text s => .str s
  | .int i => .num (.int i)
  | .float x => .num (.float x)
  | .bool b => .bool b

def Part.text? (scope : Scope) : Part → Option String
  | .literal (.text s) => some s
  | .literal (.int i) => some (toString i)
  | .literal (.float x) => some (x.text Binary64.plainLayout)
  | .literal (.bool _) => none
  | .call _ => none
  | .lookup path => (scope.lookup? path).bind plainText?

def replaceFrom (part image : List Char) (fuel : Nat) (cs : List Char) : List Char :=
  match fuel, cs with
  | 0, cs => cs
  | _, [] => []
  | fuel + 1, c :: rest =>
    if part.isPrefixOf (c :: rest) then
      image ++ replaceFrom part image fuel ((c :: rest).drop part.length)
    else c :: replaceFrom part image fuel rest

-- Replaces every occurrence of a text. The empty text occurs around every character.
def replaceAll (s part image : String) : String :=
  if part = "" then
    String.ofList (image.toList ++ s.toList.flatMap fun c => c :: image.toList)
  else String.ofList (replaceFrom part.toList image.toList s.toList.length s.toList)

-- A separator may spell a line feed and a tabulator with a backslash.
def separator (s : String) : String := replaceAll (replaceAll s "\\n" "\n") "\\t" "\t"

def wholeNumber? (base : Nat) (cs : List Char) : Option Int := do
  let (negative, digits) := match cs with
    | '-' :: rest => (true, rest)
    | '+' :: rest => (false, rest)
    | rest => (false, rest)
  let n : Int := ← Radix.nat? base digits
  let i := if negative then -n else n
  if Word.isSigned i then pure i else none

def wholePart (x : Binary64) : Int := x.truncateWithin Word.leastSigned Word.greatestSigned

def withoutMark (mark : Char) : List Char → List Char
  | '0' :: c :: rest => if c == mark then withoutMark mark rest else '0' :: c :: rest
  | cs => cs

def unmarked (base : Nat) (cs : List Char) : List Char :=
  match base with
  | 2 => withoutMark 'b' cs
  | 8 => withoutMark 'o' cs
  | 16 => withoutMark 'x' cs
  | _ => cs

-- The whole part of a number or of the number that a text spells in a base; a default for any other
-- text.
def toInt? (default : Int) (base : Nat) : Json → Option Int
  | .num n => some (wholePart n.toBinary64)
  | .str s =>
    let cs := unmarked base (Text.trimChars s.toList)
    match wholeNumber? base cs with
    | some i => some i
    | none =>
      some (if cs.contains '.' then ((Binary64.read? cs).map wholePart).getD default else default)
  | _ => none

def wholeArgument? (least greatest missing : Int) : Option Json → Option Int
  | none => some missing
  | some (.num (.int i)) => if least ≤ i ∧ i ≤ greatest then some i else none
  | some _ => none

def applyFilter (name : String) (arguments : Fields) (value : Json) : Option Json :=
  match name with
  | "join" =>
    match value, arguments.lookup "sep" with
    | .arr items, none => some (.str ("".intercalate (items.map valueText)))
    | .arr items, some (.str sep) => some (.str ((separator sep).intercalate (items.map valueText)))
    | _, _ => none
  | "replace" =>
    match value, arguments.lookup "from", arguments.lookup "to" with
    | .str s, some (.str part), some (.str image) => some (.str (replaceAll s part image))
    | _, _, _ => none
  | "length" =>
    match value with
    | .arr items => some (Json.ofNat items.length)
    | .obj fields => some (Json.ofNat fields.length)
    | .str s => some (Json.ofNat s.length)
    | _ => none
  | "int" => do
    let default ← wholeArgument? Word.leastSigned Word.greatestSigned 0 (arguments.lookup "default")
    let base ← wholeArgument? 2 36 10 (arguments.lookup "base")
    (toInt? default base.toNat value).map fun i => .num (.int i)
  | _ => none

-- A test of a variable, without arguments. Only a defined variable can be tested for being a number.
def applyTest (name : String) (value : Option Json) : Option Bool :=
  match name, value with
  | "number", some v => some (isNumber v)
  | "defined", v => some v.isSome
  | "undefined", v => some v.isNone
  | _, _ => none

def isUndefined (scope : Scope) : Term → Bool
  | .lookup path => (scope.lookup? path).isNone
  | _ => false

-- Whether a term joins conditions, which are negated twice as well.
def isJoined : Term → Bool
  | .both .. => true
  | .either .. => true
  | _ => false

mutual

-- The value of an expression. The negation of an unknown variable is true. As a value, a comparison is
-- negated twice: it holds as it stands, and also where the two values cannot be compared.
def Expr.value? (scope : Scope) : Expr → Option Json
  | .mk (.equal left right) _ true =>
    match Expr.value? scope left, Expr.value? scope right with
    | some a, some b => some (.bool (!areComparable a b || equalValues a b))
    | _, _ => none
  | .mk (.unequal left right) _ true =>
    match Expr.value? scope left, Expr.value? scope right with
    | some a, some b => some (.bool (!areComparable a b || !equalValues a b))
    | _, _ => none
  | .mk term filters negated =>
    if negated && isUndefined scope term then some (.bool true)
    else
      match (Term.value? scope term).bind (Filter.applyAll? scope filters) with
      | none => none
      | some v => some (if negated then .bool (isTrue v == isJoined term) else v)

def Term.value? (scope : Scope) : Term → Option Json
  | .literal value => some value.value
  | .lookup path => scope.lookup? path
  | .call _ => none
  | .concat parts => (parts.mapM (Part.text? scope)).map fun ss => .str ("".intercalate ss)
  | .list items => (Expr.values? scope items).map .arr
  | .equal left right =>
    match Expr.value? scope left, Expr.value? scope right with
    | some a, some b => some (.bool (equalValues a b))
    | _, _ => none
  | .unequal left right =>
    match Expr.value? scope left, Expr.value? scope right with
    | some a, some b => some (.bool (unequalValues a b))
    | _, _ => none
  | .both left right =>
    match Expr.holds? scope left with
    | some true => (Expr.holds? scope right).map .bool
    | other => other.map .bool
  | .either left right =>
    match Expr.holds? scope left with
    | some false => (Expr.holds? scope right).map .bool
    | other => other.map .bool
  | .test path name arguments negated =>
    if !arguments.isEmpty then none
    else (applyTest name (scope.lookup? path)).map fun b => .bool (if negated then !b else b)

-- The outcome of an expression as a condition. A look-up that has no value is false, whatever negates it
-- in front of a filter that fails.
def Expr.holds? (scope : Scope) : Expr → Option Bool
  | .mk (.lookup path) filters negated =>
    match scope.lookup? path with
    | none => some negated
    | some v =>
      match Filter.applyAll? scope filters v with
      | none => some false
      | some v => some (if negated then !isTrue v else isTrue v)
  | .mk (.equal left right) _ negated =>
    match Expr.value? scope left, Expr.value? scope right with
    | some a, some b => some (areComparable a b && equalValues a b != negated)
    | _, _ => none
  | .mk (.unequal left right) _ negated =>
    match Expr.value? scope left, Expr.value? scope right with
    | some a, some b => some (areComparable a b && equalValues a b == negated)
    | _, _ => none
  | .mk term _ negated =>
    (Term.value? scope term).map fun v => if negated then !isTrue v else isTrue v

def Expr.values? (scope : Scope) : List Expr → Option (List Json)
  | [] => some []
  | e :: es =>
    match Expr.value? scope e, Expr.values? scope es with
    | some v, some vs => some (v :: vs)
    | _, _ => none

def Expr.arguments? (scope : Scope) : List (String × Expr) → Option Fields
  | [] => some []
  | (name, e) :: es =>
    match Expr.value? scope e, Expr.arguments? scope es with
    | some v, some vs => some (vs.put name v)
    | _, _ => none

def Filter.applyAll? (scope : Scope) (filters : List Filter) (value : Json) : Option Json :=
  match filters with
  | [] => some value
  | .mk name arguments :: rest =>
    match Expr.arguments? scope arguments with
    | none => none
    | some arguments =>
      match applyFilter name arguments value with
      | none => none
      | some v => Filter.applyAll? scope rest v

end

-- The keys and the items that a loop goes through; of a text, these are its clusters. A key has to be
-- named where there are keys, and only there.
def turns? (hasKey : Bool) : Json → Option (List (String × Json))
  | .arr items => if hasKey then none else some (items.map fun v => ("", v))
  | .str s => if hasKey then none else some ((Text.clusters s.toList).map fun cs => ("", .str (String.ofList cs)))
  | .obj fields => if hasKey then some fields else none
  | _ => none

def frames (itemName : String) (keyName : Option String) (turns : List (String × Json)) :
    List Frame :=
  turns.zipIdx.map fun ((key, item), position) =>
    { keyName, itemName, key, item, position, count := turns.length, locals := [] }

def isContainer : Expr → Bool
  | .mk (.lookup _) _ _ => true
  | .mk (.list _) _ _ => true
  | _ => false

structure State where
  out : String
  scope : Scope

mutual

def Node.render? (state : State) : Node → Option State
  | .text s => some { state with out := state.out ++ s }
  | .print e =>
    (Expr.value? state.scope e).map fun v => { state with out := state.out ++ valueText v }
  | .set name whole e =>
    (Expr.value? state.scope e).map fun v =>
      { state with
        scope := if whole then state.scope.assignGlobal name v else state.scope.assign name v }
  | .cond branches otherwise =>
    match renderBranch? state branches with
    | none => none
    | some (some after) => some after
    | some none => renderAll? state otherwise
  | .loop item key container body otherwise =>
    if !isContainer container then none
    else
      match (Expr.value? state.scope container).bind (turns? key.isSome) with
      | none => none
      | some [] => renderAll? state otherwise
      | some turns =>
        let outer := state.scope.loops
        let final := (frames item key turns).foldl
          (fun s frame => s.bind fun s =>
            renderAll? { s with scope := { s.scope with loops := frame :: outer } } body)
          (some state)
        final.map fun s => { s with scope := { s.scope with loops := outer } }

def renderAll? (state : State) : List Node → Option State
  | [] => some state
  | node :: rest =>
    match Node.render? state node with
    | none => none
    | some state => renderAll? state rest

def renderBranch? (state : State) : List (Expr × List Node) → Option (Option State)
  | [] => some none
  | (condition, body) :: rest =>
    match Expr.holds? state.scope condition with
    | none => none
    | some true => (renderAll? state body).map some
    | some false => renderBranch? state rest

end

def render? (template : List Node) (context : Fields) : Option String :=
  (renderAll? { out := "", scope := { loops := [], globals := [], context } } template).map (·.out)

end ClientGen.Template
