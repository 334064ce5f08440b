import ClientGen.Yaml.NodeReader
import ClientGen.Yaml.Lexer

namespace ClientGen.Yaml

def standardHandles : List (String × String) := [("!", "!"), ("!!", "tag:yaml.org,2002:")]

-- What the directives at the start of the tokens say, and the tokens after them. Nothing may be said
-- twice.
def directives? (versionSeen : Bool) (handles : List (String × String)) :
    List Token → Option (List (String × String) × List Token)
  | .versionDirective major minor :: rest =>
    if versionSeen || major != 1 || (minor != 1 && minor != 2) then none
    else directives? true handles rest
  | .tagDirective handle replacement :: rest =>
    if (handles.lookup handle).isSome then none
    else directives? versionSeen ((handle, replacement) :: handles) rest
  | tokens => some (handles ++ standardHandles, tokens)

def startsDocument : List Token → Bool
  | .versionDirective .. :: _ | .tagDirective .. :: _ | .documentStart :: _ => true
  | _ => false

def endsContent : List Token → Bool
  | [] | .documentEnd :: _ => true
  | tokens => startsDocument tokens

def document? (marked : Bool) (tokens : List Token) : Option (Document × List Token) := do
  let fuel := 8 * tokens.length + 16
  let reader := fun handles tokens => NodeReader.mk tokens handles [] #[] []
  let (root, s) ←
    if !marked && !startsDocument tokens then
      NodeReader.node? true false fuel (reader standardHandles tokens)
    else
      match ← directives? false [] tokens with
      | (handles, .documentStart :: tokens) =>
        let s := reader handles tokens
        if endsContent tokens then some (Node.empty, s) else NodeReader.node? true false fuel s
      | _ => none
  let rest := match s.tokens with
    | .documentEnd :: rest => rest
    | rest => rest
  pure (⟨root, s.anchored, s.places⟩, rest)

def documents? (fuel : Nat) (marked : Bool) (tokens : List Token) : Option (List Document) :=
  match fuel with
  | 0 => none
  | fuel + 1 =>
    let tokens := if marked then tokens.dropWhile (· == .documentEnd) else tokens
    if tokens.isEmpty then some []
    else
      match document? marked tokens with
      | none => none
      | some (document, rest) => (documents? fuel true rest).map (document :: ·)

def read? (text : String) : Option Document := do
  let tokens ← tokens? text
  match ← documents? (tokens.length + 1) false tokens with
  | [] => some ⟨.empty, #[], []⟩
  | [document] => some document
  | _ => none

end ClientGen.Yaml
