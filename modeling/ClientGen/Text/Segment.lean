namespace ClientGen.Text

def pieces (separator : Char) : List Char → List (List Char)
  | [] => [[]]
  | c :: rest =>
    if c == separator then [] :: pieces separator rest
    else match pieces separator rest with
      | [] => [[c]]
      | piece :: later => (c :: piece) :: later

def afterLastSlash (cs : List Char) : List Char := (cs.reverse.takeWhile (· != '/')).reverse

def lastSegment (s : String) : String := String.ofList (afterLastSlash s.toList)

def occursIn (part : List Char) : List Char → Bool
  | [] => part.isEmpty
  | c :: rest => part.isPrefixOf (c :: rest) || occursIn part rest

def contains (s part : String) : Bool := occursIn part.toList s.toList

end ClientGen.Text
