import ClientGen.Template.Word

namespace ClientGen.Template

def Expr.withNegation (negated : Bool) : Expr → Expr
  | .mk term filters _ => .mk term filters negated

mutual

def logic? (fuel : Nat) (cs : List Char) : Option (Expr × List Char) :=
  match fuel with
  | 0 => none
  | fuel + 1 => do
    let (left, rest) ← both? fuel cs
    match operator? "or" rest with
    | some rest => (logic? fuel rest).map fun (right, rest) => (.ofTerm (.either left right), rest)
    | none => pure (left, rest)

def both? (fuel : Nat) (cs : List Char) : Option (Expr × List Char) :=
  match fuel with
  | 0 => none
  | fuel + 1 => do
    let (left, rest) ← condition? fuel cs
    match operator? "and" rest with
    | some rest => (both? fuel rest).map fun (right, rest) => (.ofTerm (.both left right), rest)
    | none => pure (left, rest)

-- A comparison, negated or not, or alternatives in parentheses. Only the word in front of the comparison
-- decides whether it is negated, so parentheses take a negation inside them away.
def condition? (fuel : Nat) (cs : List Char) : Option (Expr × List Char) :=
  match fuel with
  | 0 => none
  | fuel + 1 =>
    match operator? "not" cs with
    | some rest => (comparison? fuel rest).map fun (e, rest) => (e.withNegation true, rest)
    | none =>
      match comparison? fuel cs with
      | some (e, rest) => some (e.withNegation false, rest)
      | none => do
        let (e, rest) ← logic? fuel (← sign? "(" cs)
        pure (e.withNegation false, ← sign? ")" rest)

def comparison? (fuel : Nat) (cs : List Char) : Option (Expr × List Char) :=
  match fuel with
  | 0 => none
  | fuel + 1 => do
    let (left, rest) ← operand? fuel cs
    match sign? "==" rest, sign? "!=" rest with
    | some rest, _ =>
      (operand? fuel rest).map fun (right, rest) => (.ofTerm (.equal left right), rest)
    | none, some rest =>
      (operand? fuel rest).map fun (right, rest) => (.ofTerm (.unequal left right), rest)
    | none, none => pure (left, rest)

def operand? (fuel : Nat) (cs : List Char) : Option (Expr × List Char) :=
  match fuel with
  | 0 => none
  | fuel + 1 => do
    let cs := skipSpace cs
    let term := match concat? fuel cs with
      | some (parts, rest) => some (Term.concat parts, rest)
      | none =>
        match quoted? cs with
        | some (s, rest) => some (.literal (.text s), rest)
        | none => value? fuel cs
    let (term, rest) ← term
    let (filters, rest) ← filters? fuel rest
    pure (.mk term filters false, rest)

def concat? (fuel : Nat) (cs : List Char) : Option (List Part × List Char) :=
  match fuel with
  | 0 => none
  | fuel + 1 => do
    let (first, rest) ← part? fuel cs
    let rest ← sign? "~" rest
    match concat? fuel (skipSpace rest) with
    | some (parts, rest) => pure (first :: parts, rest)
    | none => (part? fuel (skipSpace rest)).map fun (second, rest) => ([first, second], rest)

def part? (fuel : Nat) (cs : List Char) : Option (Part × List Char) :=
  match fuel with
  | 0 => none
  | fuel + 1 =>
    match call? fuel cs with
    | some (function, rest) => some (.call function, rest)
    | none =>
      match number? cs, quoted? cs with
      | some (n, rest), _ => some (.literal n, rest)
      | none, some (s, rest) => some (.literal (.text s), rest)
      | none, none => (lookup? cs).map fun (path, rest) => (.lookup path, rest)

-- A value that is no text: a truth value, a test, a call, a look-up, a number, or one of them in
-- parentheses.
def value? (fuel : Nat) (cs : List Char) : Option (Term × List Char) :=
  match fuel with
  | 0 => none
  | fuel + 1 =>
    match cs with
    | '(' :: rest => do
      let (term, rest) ← value? fuel (skipSpace rest)
      pure (term, ← sign? ")" rest)
    | cs =>
      match bool? cs with
      | some (b, rest) => some (.literal (.bool b), rest)
      | none =>
        match test? fuel cs with
        | some result => some result
        | none =>
          match call? fuel cs with
          | some (function, rest) => some (.call function, rest)
          | none =>
            match lookup? cs, number? cs with
            | some (path, rest), _ => some (.lookup path, rest)
            | none, some (n, rest) => some (.literal n, rest)
            | none, none => none

def test? (fuel : Nat) (cs : List Char) : Option (Term × List Char) :=
  match fuel with
  | 0 => none
  | fuel + 1 => do
    let (path, rest) ← lookup? cs
    let rest ← sign? "is" rest
    match (sign? "not" rest).bind nameAfter? with
    | some (name, rest) =>
      let (arguments, rest) := testArguments fuel rest
      pure (.test path name arguments true, rest)
    | none =>
      let (name, rest) ← nameAfter? rest
      let (arguments, rest) := testArguments fuel rest
      pure (.test path name arguments false, rest)

def testArguments (fuel : Nat) (cs : List Char) : List Expr × List Char :=
  match fuel with
  | 0 => ([], cs)
  | fuel + 1 =>
    match (sign? "(" cs).bind (values? fuel) with
    | some (values, rest) =>
      match sign? ")" rest with
      | some rest => (values, rest)
      | none => ([], cs)
    | none => ([], cs)

def values? (fuel : Nat) (cs : List Char) : Option (List Expr × List Char) :=
  match fuel with
  | 0 => none
  | fuel + 1 => do
    let (first, rest) ← anyValue? fuel cs
    match (sign? "," rest).bind (values? fuel) with
    | some (later, rest) => pure (first :: later, rest)
    | none => pure ([first], rest)

def call? (fuel : Nat) (cs : List Char) : Option (String × List Char) :=
  match fuel with
  | 0 => none
  | fuel + 1 => do
    let (function, rest) ← name? cs
    let (_, rest) ← arguments? fuel (← sign? "(" rest)
    pure (function, rest)

def filters? (fuel : Nat) (cs : List Char) : Option (List Filter × List Char) :=
  match fuel with
  | 0 => none
  | fuel + 1 =>
    match sign? "|" cs with
    | none => some ([], cs)
    | some rest => do
      let (name, rest) ← nameAfter? rest
      let (arguments, rest) := match (sign? "(" rest).bind (arguments? fuel) with
        | some (arguments, rest) => (arguments, rest)
        | none => ([], rest)
      let (filters, rest) ← filters? fuel rest
      pure (.mk name arguments :: filters, rest)

-- Named arguments up to the closing parenthesis. A comma may follow the last one. Of arguments of one
-- name only the last counts.
def arguments? (fuel : Nat) (cs : List Char) : Option (List (String × Expr) × List Char) :=
  match fuel with
  | 0 => none
  | fuel + 1 =>
    match sign? ")" cs with
    | some rest => some ([], rest)
    | none => do
      let (name, rest) ← nameAfter? cs
      let (e, rest) ← anyValue? fuel (← sign? "=" rest)
      let (later, rest) ←
        match sign? "," rest with
        | some rest => arguments? fuel rest
        | none => (sign? ")" rest).map fun rest => ([], rest)
      pure (if later.any fun (other, _) => other == name then later else (name, e) :: later, rest)

def anyValue? (fuel : Nat) (cs : List Char) : Option (Expr × List Char) :=
  match fuel with
  | 0 => none
  | fuel + 1 =>
    match sign? "[" cs with
    | none => logic? fuel cs
    | some rest => list? fuel rest

def list? (fuel : Nat) (cs : List Char) : Option (Expr × List Char) :=
  match fuel with
  | 0 => none
  | fuel + 1 => do
    let (items, rest) := items fuel cs
    let rest := (sign? "," rest).getD rest
    let (filters, rest) ← filters? fuel (← sign? "]" rest)
    pure (.mk (.list items) filters false, rest)

def items (fuel : Nat) (cs : List Char) : List Expr × List Char :=
  match fuel with
  | 0 => ([], cs)
  | fuel + 1 =>
    match condition? fuel cs with
    | none => ([], cs)
    | some (first, rest) =>
      match (sign? "," rest).map (items fuel) with
      | some (second :: later, rest) => (first :: second :: later, rest)
      | _ => ([first], rest)

def container? (fuel : Nat) (cs : List Char) : Option (Expr × List Char) :=
  match fuel with
  | 0 => none
  | fuel + 1 =>
    match sign? "[" cs with
    | some rest => list? fuel rest
    | none => do
      let (term, rest) ← value? fuel (skipSpace cs)
      let (filters, rest) ← filters? fuel rest
      pure (.mk term filters false, rest)

end

-- Each level of the grammar spends fuel, and there are fewer than sixteen between two characters.
def fuelFor (cs : List Char) : Nat := 16 * cs.length + 16

end ClientGen.Template
