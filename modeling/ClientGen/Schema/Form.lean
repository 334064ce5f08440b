import ClientGen.Json.Basic

namespace ClientGen.Schema

inductive Primitive where
  | string
  | number
  | boolean
  | file
  deriving DecidableEq, Repr, Inhabited

namespace Primitive

def ofName? : String → Option Primitive
  | "string" => some .string
  | "number" => some .number
  | "integer" => some .number
  | "boolean" => some .boolean
  | "file" => some .file
  | _ => none

def text : Primitive → String
  | .string => "string"
  | .number => "number"
  | .boolean => "boolean"
  | .file => "string | Blob"

end Primitive

inductive Form where
  | absent
  | alternatives (first : Option Json)
  | combined (first : Option Json)
  -- A parameter or response that carries its schema under a key.
  | carried (inner : Json)
  | reference (target : String)
  | literals (values : List Json)
  | list (items : Option Json)
  | primitive (type : Primitive)
  | unknown
  deriving Inhabited

namespace Form

def ofType (fragment : Json) : Form :=
  match fragment.string "type" with
  | some "array" => .list (fragment.get? "items")
  | some name => ((Primitive.ofName? name).map .primitive).getD .unknown
  | none => .unknown

def ofJson (fragment : Json) : Form :=
  match fragment.list "oneOf" with
  | some members => .alternatives members.head?
  | none =>
  match fragment.list "anyOf" with
  | some members => .alternatives members.head?
  | none =>
  match fragment.list "allOf" with
  | some members => .combined members.head?
  | none =>
  match fragment.get? "schema" with
  | some inner => .carried inner
  | none =>
  match fragment.string "$ref" with
  | some target => .reference target
  | none =>
  match fragment.list "enum" with
  | some values => .literals values
  | none => ofType fragment

def of : Option Json → Form
  | none => .absent
  | some .null => .absent
  | some fragment => ofJson fragment

def next? : Form → Option (Option Json)
  | .alternatives first => some first
  | .combined first => some first
  | .carried inner => some (some inner)
  | .list items => some items
  | _ => none

theorem sizeOf_head? {items : List Json} : sizeOf items.head? ≤ sizeOf items := by
  cases items with
  | nil => simp
  | cons v vs =>
    simp only [List.head?_cons, Option.some.sizeOf_spec, List.cons.sizeOf_spec]
    omega

theorem sizeOf_get?_opt {fragment : Json} {key : String} :
    sizeOf (fragment.get? key) < sizeOf (some fragment) := by
  cases h : fragment.get? key with
  | none =>
    simp only [Option.none.sizeOf_spec, Option.some.sizeOf_spec]
    have : 0 < sizeOf fragment := by cases fragment <;> simp +arith
    omega
  | some inner =>
    have := Json.sizeOf_get? h
    simp only [Option.some.sizeOf_spec]
    omega

theorem next?_ofType {fragment : Json} {next : Option Json}
    (h : (ofType fragment).next? = some next) : sizeOf next < sizeOf (some fragment) := by
  unfold ofType at h
  split at h
  · cases h
    exact sizeOf_get?_opt
  · rename_i name _ _
    cases hp : Primitive.ofName? name <;> simp [hp, next?] at h
  · simp [next?] at h

theorem next?_ofJson {fragment : Json} {next : Option Json}
    (h : (ofJson fragment).next? = some next) : sizeOf next < sizeOf (some fragment) := by
  have head : ∀ {key members}, fragment.list key = some members →
      sizeOf members.head? < sizeOf (some fragment) := by
    intro key members hm
    have h1 := Json.sizeOf_list hm
    have h2 := @sizeOf_head? members
    simp only [Option.some.sizeOf_spec]
    omega
  unfold ofJson at h
  split at h
  · rename_i hm; cases h; exact head hm
  split at h
  · rename_i hm; cases h; exact head hm
  split at h
  · rename_i hm; cases h; exact head hm
  split at h
  · rename_i inner hi
    cases h
    have := Json.sizeOf_get? hi
    simp only [Option.some.sizeOf_spec]
    omega
  split at h
  · simp [next?] at h
  split at h
  · simp [next?] at h
  · exact next?_ofType h

theorem sizeOf_next? {fragment next : Option Json} (h : (of fragment).next? = some next) :
    sizeOf next < sizeOf fragment := by
  unfold of at h
  split at h
  · simp [next?] at h
  · simp [next?] at h
  · exact next?_ofJson h

end Form

end ClientGen.Schema
