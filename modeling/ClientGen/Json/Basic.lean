import ClientGen.Number.Binary64

namespace ClientGen

-- Whole numbers of 64 bits are exact, signed or unsigned; all others are binary floats.
inductive Number where
  | int (i : Int)
  | float (x : Binary64)
  deriving DecidableEq, Repr, Inhabited

inductive Json where
  | null
  | bool (b : Bool)
  | num (n : Number)
  | str (s : String)
  | arr (items : List Json)
  | obj (fields : List (String × Json))
  deriving Inhabited

abbrev Fields := List (String × Json)

namespace Number

def toBinary64 : Number → Binary64
  | .int i => Binary64.ofInt i
  | .float x => x

def same : Number → Number → Bool
  | .int i, .int j => i == j
  | .float x, .float y => x.sameValue y
  | _, _ => false

end Number

namespace Fields

def keys (fields : Fields) : List String := fields.map (·.1)

-- Gives `key` the value: in place if the key is there, at the end otherwise.
def put : Fields → String → Json → Fields
  | [], key, value => [(key, value)]
  | (k, v) :: rest, key, value =>
    if k = key then (k, value) :: rest else (k, v) :: put rest key value

end Fields

namespace Json

def str? : Json → Option String
  | .str s => some s
  | _ => none

def bool? : Json → Option Bool
  | .bool b => some b
  | _ => none

def arr? : Json → Option (List Json)
  | .arr items => some items
  | _ => none

def obj? : Json → Option Fields
  | .obj fields => some fields
  | _ => none

def get? : Json → String → Option Json
  | .obj fields, key => fields.lookup key
  | _, _ => none

def string (value : Json) (key : String) : Option String := (value.get? key).bind str?

def list (value : Json) (key : String) : Option (List Json) := (value.get? key).bind arr?

def fields (value : Json) (key : String) : Option Fields := (value.get? key).bind obj?

def flag (value : Json) (key : String) : Option Bool := (value.get? key).bind bool?

def ofNat (n : Nat) : Json := .num (.int n)

def ofOption (f : α → Json) : Option α → Json
  | none => .null
  | some a => f a

theorem sizeOf_lookup {fields : Fields} {key : String} {value : Json}
    (h : fields.lookup key = some value) : sizeOf value < sizeOf fields := by
  induction fields with
  | nil => simp at h
  | cons field rest ih =>
    obtain ⟨k, v⟩ := field
    rw [List.lookup_cons] at h
    split at h
    · cases h
      simp only [List.cons.sizeOf_spec, Prod.mk.sizeOf_spec]
      omega
    · have := ih h
      simp only [List.cons.sizeOf_spec]
      omega

theorem sizeOf_get? {value inner : Json} {key : String} (h : value.get? key = some inner) :
    sizeOf inner < sizeOf value := by
  cases value with
  | obj fields =>
    have := sizeOf_lookup h
    simp only [obj.sizeOf_spec]
    omega
  | _ => simp [get?] at h

theorem sizeOf_list {value : Json} {key : String} {items : List Json}
    (h : value.list key = some items) : sizeOf items < sizeOf value := by
  unfold list at h
  cases hv : value.get? key with
  | none => simp [hv] at h
  | some inner =>
    have := sizeOf_get? hv
    cases inner <;> simp [hv, arr?] at h
    subst h
    simp only [arr.sizeOf_spec] at this
    omega

mutual

def same : Json → Json → Bool
  | .null, .null => true
  | .bool a, .bool b => a == b
  | .num a, .num b => a.same b
  | .str a, .str b => a == b
  | .arr as, .arr bs => sameItems as bs
  | .obj as, .obj bs => as.length == bs.length && sameFields as bs
  | _, _ => false

def sameItems : List Json → List Json → Bool
  | [], [] => true
  | a :: as, b :: bs => same a b && sameItems as bs
  | _, _ => false

def sameFields : List (String × Json) → List (String × Json) → Bool
  | [], _ => true
  | (k, a) :: as, bs =>
    (match bs.lookup k with
      | some b => same a b
      | none => false) && sameFields as bs

end

mutual

def mergeKeys : Json → Json
  | .arr items => .arr (mergeItems items)
  | .obj fields => .obj (mergeFields [] fields)
  | v => v

def mergeItems : List Json → List Json
  | [] => []
  | v :: vs => mergeKeys v :: mergeItems vs

def mergeFields (done : Fields) : List (String × Json) → Fields
  | [] => done
  | (k, v) :: rest => mergeFields (done.put k (mergeKeys v)) rest

end

end Json

end ClientGen
