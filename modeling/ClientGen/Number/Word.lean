import ClientGen.Number.Power

namespace ClientGen.Word

def leastSigned : Int := -(twoTo 63 : Int)

def greatestSigned : Int := (twoTo 63 : Int) - 1

def greatestUnsigned : Nat := twoTo 64 - 1

def isSigned (i : Int) : Bool := leastSigned ≤ i && i ≤ greatestSigned

end ClientGen.Word
