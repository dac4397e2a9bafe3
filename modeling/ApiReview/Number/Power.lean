/-!
# Powers and word sizes

Powers of two and of ten, and whether an integer fits a word of some bits.
-/

namespace ApiReview

def twoTo (n : Nat) : Nat :=
  Nat.pow 2 n

def tenTo (n : Nat) : Nat :=
  Nat.pow 10 n

/-- Does an integer fit a word of the given number of bits, one of which is the
sign? -/
def fitsSigned (bits : Nat) (n : Int) : Bool :=
  -(twoTo (bits - 1) : Int) ≤ n && n < twoTo (bits - 1)

/-- Does an integer fit a word of the given number of bits without a sign? -/
def fitsUnsigned (bits : Nat) (n : Int) : Bool :=
  0 ≤ n && n < twoTo bits

end ApiReview
