import ClientGen.Text.Utf8
import ClientGen.Yaml.Scalar

namespace ClientGen.Yaml

inductive Token where
  | versionDirective (major minor : Nat)
  | tagDirective (handle replacement : String)
  | documentStart
  | documentEnd
  | blockSequenceStart
  | blockMappingStart
  | blockEnd
  | flowSequenceStart
  | flowSequenceEnd
  | flowMappingStart
  | flowMappingEnd
  | blockEntry
  | flowEntry
  | key
  | value
  | alias (name : String)
  | anchor (name : String)
  | tag (handle suffix : String)
  | scalar (text : String) (plain : Bool)
  deriving DecidableEq, Repr, Inhabited

namespace Tag

def isUriChar (inBrackets : Bool) (c : Char) : Bool :=
  isNameChar c || ";/?:@&=+$.%!~*'()".toList.contains c ||
    (inBrackets && (c == ',' || c == '[' || c == ']'))

def escapedBytes? (count : Nat) (cs : List Char) : Option (List UInt8) :=
  match count, cs with
  | 0, _ => some []
  | count + 1, '%' :: high :: low :: rest => do
    let high ← Json.hexValue? high
    let low ← Json.hexValue? low
    let later ← escapedBytes? count rest
    pure (UInt8.ofNat (high * 16 + low) :: later)
  | _, _ => none

def tailLength? (b : UInt8) : Option Nat :=
  if b < 0x80 then some 0
  else if 0xC0 ≤ b && b < 0xE0 then some 1
  else if 0xE0 ≤ b && b < 0xF0 then some 2
  else if 0xF0 ≤ b && b < 0xF8 then some 3
  else none

def escaped? (cs : List Char) : Option (List Char × Nat) := do
  let first ← (← escapedBytes? 1 cs).head?
  let length ← tailLength? first
  let bytes ← escapedBytes? (length + 1) cs
  if bytes.tail.all Text.Utf8.isTail then
    pure (Text.Utf8.decodeFrom none bytes, length + 1)
  else none

def uri? (inBrackets : Bool) (fuel : Nat) (cs : List Char) : Option (List Char × Nat) :=
  match fuel, cs with
  | fuel + 1, c :: rest =>
    if !isUriChar inBrackets c then some ([], 0)
    else if c == '%' then do
      let (chars, count) ← escaped? cs
      let (later, length) ← uri? inBrackets fuel (cs.drop (3 * count))
      pure (chars ++ later, 3 * count + length)
    else (uri? inBrackets fuel rest).map fun (later, length) => (c :: later, length + 1)
  | _, _ => some ([], 0)

def uriAt? (inBrackets : Bool) (c : Cursor) : Option (List Char × Cursor) :=
  (uri? inBrackets c.rest.length c.rest).map fun (chars, length) => (chars, c.advance length)

def handle (c : Cursor) : List Char × Cursor :=
  let name := (c.rest.drop 1).takeWhile isNameChar
  let after := c.advance (name.length + 1)
  if after.rest.head? == some '!' then ('!' :: name ++ ['!'], after.advance 1)
  else ('!' :: name, after)

-- A tag at the cursor: an address in angle brackets, or a handle and the rest of an address. A lone
-- exclamation mark is a tag by itself.
def read? (inFlow : Bool) (c : Cursor) : Option (Token × Cursor) := do
  let (token, after) ←
    if c.rest.drop 1 |>.head? |>.any (· == '<') then do
      let (uri, after) ← uriAt? true (c.advance 2)
      if uri.isEmpty || after.rest.head? != some '>' then none
      pure (Token.tag "" (String.ofList uri), after.advance 1)
    else do
      let (handle, after) := handle c
      let (uri, after) ← uriAt? false after
      if 1 < handle.length && handle.getLast? == some '!' then
        if uri.isEmpty then none
        pure (Token.tag (String.ofList handle) (String.ofList uri), after)
      else
        let suffix := handle.drop 1 ++ uri
        if suffix.isEmpty then pure (Token.tag "" "!", after)
        else pure (Token.tag "!" (String.ofList suffix), after)
  if startsBlank after.rest || (inFlow && after.rest.head? == some ',') then pure (token, after)
  else none

end Tag

def anchorName? (c : Cursor) : Option (String × Cursor) :=
  let name := (c.rest.drop 1).takeWhile isNameChar
  let after := c.advance (name.length + 1)
  if name.isEmpty then none
  else if startsBlank after.rest || "?:,]\x7d%@`".toList.any (after.rest.head? == some ·) then
    some (String.ofList name, after)
  else none

namespace Directive

def number? (c : Cursor) : Option (Nat × Cursor) :=
  let digits := c.rest.takeWhile Char.isDigit
  if digits.isEmpty || 9 < digits.length then none
  else some (Json.numeral (digits.map fun d => d.toNat - '0'.toNat), c.advance digits.length)

def version? (c : Cursor) : Option (Token × Cursor) := do
  let (major, c) ← number? (c.skipWhile isBlank)
  if c.rest.head? != some '.' then none
  let (minor, c) ← number? (c.advance 1)
  pure (.versionDirective major minor, c)

def tag? (c : Cursor) : Option (Token × Cursor) := do
  let c := c.skipWhile isBlank
  if c.rest.head? != some '!' then none
  let (handle, c) := Tag.handle c
  if handle != ['!'] && (handle.length == 1 || handle.getLast? != some '!') then none
  if !c.rest.head?.any isBlank then none
  let (replacement, c) ← Tag.uriAt? true (c.skipWhile isBlank)
  if replacement.isEmpty || !startsBlank c.rest then none
  pure (.tagDirective (String.ofList handle) (String.ofList replacement), c)

def read? (c : Cursor) : Option (Token × Cursor) := do
  let name := (c.rest.drop 1).takeWhile isNameChar
  let after := c.advance (name.length + 1)
  if !startsBlank after.rest then none
  let (token, after) ←
    if name == "YAML".toList then version? after
    else if name == "TAG".toList then tag? after
    else none
  let after := after.skipWhile isBlank
  let after :=
    if after.rest.head? == some '#' then after.skipWhile fun x => !isBreak x else after
  if startsBreak after.rest then pure (token, after.skipLineBreak) else none

end Directive

end ClientGen.Yaml
