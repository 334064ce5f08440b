import ClientGen.Text.Letter

namespace ClientGen.Text

def trimStartChars (cs : List Char) : List Char := cs.dropWhile isBlank

def trimEndChars (cs : List Char) : List Char := (cs.reverse.dropWhile isBlank).reverse

def trimChars (cs : List Char) : List Char := trimEndChars (trimStartChars cs)

def isBlankText (s : String) : Bool := s.toList.all isBlank

end ClientGen.Text
