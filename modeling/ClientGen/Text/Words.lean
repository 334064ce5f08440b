import ClientGen.Text.Case

namespace ClientGen.Text

-- Whether `b`, standing right after `a` and before `next`, starts a new word: a capital after a small
-- letter or a number, the last capital of an acronym before a small letter, or a letter after a number.
def startsWord (a b : Char) (next : Option Char) : Bool :=
  if isUppercase b then
    isLowercase a || isNumeric a || (isUppercase a && (next.map isLowercase).getD false)
  else isAlphabetic b && isNumeric a

-- `current` is the unfinished word, its last character first.
def wordsFrom (current : List Char) : List Char → List (List Char)
  | [] => if current.isEmpty then [] else [current.reverse]
  | c :: rest =>
    if isAlphanumeric c then
      match current with
      | [] => wordsFrom [c] rest
      | a :: before =>
        if startsWord a c rest.head? then (a :: before).reverse :: wordsFrom [c] rest
        else wordsFrom (c :: a :: before) rest
    else if current.isEmpty then wordsFrom [] rest
    else current.reverse :: wordsFrom [] rest

def words (cs : List Char) : List (List Char) := wordsFrom [] cs

def wordsOf (s : String) : List String := (words s.toList).map String.ofList

def joinCamel : List (List Char) → List Char
  | [] => []
  | w :: ws => lower w ++ ws.flatMap fun v => capitalize (lower v)

def camelCase (s : String) : String := String.ofList (joinCamel (words s.toList))

end ClientGen.Text
