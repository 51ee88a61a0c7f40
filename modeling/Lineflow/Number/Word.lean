/-! # Words

The ranges of whole numbers of 64 bits, with and without a sign.
-/
namespace Lineflow.Word

def bound : Nat := 18446744073709551616

def signedBound : Nat := 9223372036854775808

def isUnsigned (n : Int) : Bool := 0 ≤ n && n < (bound : Int)

def isSigned (n : Int) : Bool := -(signedBound : Int) ≤ n && n < (signedBound : Int)

/-- The word with a sign that has the same low 64 bits. -/
def wrap (n : Int) : Int := n.bmod bound

end Lineflow.Word
