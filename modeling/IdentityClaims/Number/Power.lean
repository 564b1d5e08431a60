/-!
# Powers of two and of ten

The two bases in which numbers are scaled, and the integers that a machine word holds.
-/

namespace IdentityClaims.Number

def twoTo (exponent : Nat) : Nat :=
  Nat.pow 2 exponent

def tenTo (exponent : Nat) : Nat :=
  Nat.pow 10 exponent

/-- The integers of a signed word of 64 bits. -/
def isSigned64 (n : Int) : Bool :=
  -(twoTo 63 : Int) ≤ n && n < twoTo 63

/-- The integers of a signed or an unsigned word of 64 bits. -/
def isWord64 (n : Int) : Bool :=
  -(twoTo 63 : Int) ≤ n && n < twoTo 64

end IdentityClaims.Number
