import ClientGen.Json.Parser

namespace ClientGen.Json

def skipString? : List Char → Option (List Char)
  | [] => none
  | '"' :: rest => some rest
  | '\\' :: 'u' :: a :: b :: c :: d :: rest =>
    if [a, b, c, d].all fun x => (hexValue? x).isSome then skipString? rest else none
  | '\\' :: e :: rest => if (plainEscape? e).isSome then skipString? rest else none
  | c :: rest => if c.toNat < 32 then none else skipString? rest

def skipPlain? (cs : List Char) : Option (List Char) :=
  match cs.head? with
  | some 't' => (word? "true" .null cs).map (·.2)
  | some 'f' => (word? "false" .null cs).map (·.2)
  | some 'n' => (word? "null" .null cs).map (·.2)
  | _ => (literal? cs).map (·.2)

-- `closers` are the brackets that are still to come, the innermost first. Every call passes a
-- character, so the length of the text is enough `fuel`.

mutual

def skipFrom? (fuel : Nat) (closers cs : List Char) : Option (List Char) :=
  match fuel with
  | 0 => none
  | fuel + 1 =>
    match skipSpace cs with
    | '"' :: rest =>
      match skipString? rest with
      | some rest => skipAfter? fuel closers rest
      | none => none
    | '[' :: rest =>
      match skipSpace rest with
      | ']' :: rest => skipAfter? fuel closers rest
      | rest => skipFrom? fuel (']' :: closers) rest
    | '{' :: rest =>
      match skipSpace rest with
      | '}' :: rest => skipAfter? fuel closers rest
      | rest => skipKey? fuel ('}' :: closers) rest
    | rest =>
      match skipPlain? rest with
      | some rest => skipAfter? fuel closers rest
      | none => none

def skipKey? (fuel : Nat) (closers cs : List Char) : Option (List Char) :=
  match fuel, skipSpace cs with
  | fuel + 1, '"' :: rest =>
    match (skipString? rest).map skipSpace with
    | some (':' :: rest) => skipFrom? fuel closers rest
    | _ => none
  | _, _ => none

def skipAfter? (fuel : Nat) (closers cs : List Char) : Option (List Char) :=
  match fuel, closers with
  | _, [] => some cs
  | 0, _ => none
  | fuel + 1, closer :: outer =>
    match skipSpace cs with
    | [] => none
    | c :: rest =>
      if c == closer then skipAfter? fuel outer rest
      else if c != ',' then none
      else if closer == '}' then skipKey? fuel closers rest
      else skipFrom? fuel closers rest

end

def valueText? (cs : List Char) : Option (List Char × List Char) :=
  (skipFrom? (cs.length + 1) [] cs).map fun rest => (cs.take (cs.length - rest.length), rest)

inductive Parts where
  | fields (all : List (String × List Char))
  | items (all : List (List Char))
  | single
  deriving DecidableEq, Repr, Inhabited

def itemTexts? (fuel : Nat) (cs : List Char) : Option (List (List Char) × List Char) :=
  match fuel with
  | 0 => none
  | fuel + 1 => do
    let (item, rest) ← valueText? cs
    match skipSpace rest with
    | ',' :: rest => (itemTexts? fuel rest).map fun (items, rest) => (item :: items, rest)
    | ']' :: rest => pure ([item], rest)
    | _ => none

def fieldTexts? (fuel : Nat) (cs : List Char) : Option (List (String × List Char) × List Char) :=
  match fuel, skipSpace cs with
  | fuel + 1, '"' :: rest => do
    let (key, rest) ← stringBody? (rest.length + 1) [] rest
    match skipSpace rest with
    | ':' :: rest =>
      let (value, rest) ← valueText? rest
      match skipSpace rest with
      | ',' :: rest => (fieldTexts? fuel rest).map fun (fields, rest) => ((key, value) :: fields, rest)
      | '}' :: rest => pure ([(key, value)], rest)
      | _ => none
    | _ => none
  | _, _ => none

def parts? (cs : List Char) : Option Parts := do
  let (parts, rest) ←
    match skipSpace cs with
    | '[' :: rest =>
      match skipSpace rest with
      | ']' :: rest => pure (Parts.items [], rest)
      | rest => (itemTexts? (rest.length + 1) rest).map fun (items, rest) => (.items items, rest)
    | '{' :: rest =>
      match skipSpace rest with
      | '}' :: rest => pure (Parts.fields [], rest)
      | rest => (fieldTexts? (rest.length + 1) rest).map fun (fields, rest) => (.fields fields, rest)
    | rest => (valueText? rest).map fun (_, rest) => (.single, rest)
  if (skipSpace rest).isEmpty then pure parts else none

end ClientGen.Json
