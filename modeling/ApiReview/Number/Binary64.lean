import ApiReview.Number.Power

/-!
# Binary64 numbers

Bounds of schemas are binary64 numbers.  A finite one is kept as the exact value
`± significand · 2 ^ exponent`, so that rounding, comparison and printing are
arithmetic on natural numbers.  `Binary64.ofRatio` rounds a quotient to the
nearest binary64 number, an exact half to the even neighbour; reading a
decimal text and all products and quotients go through it.
-/

namespace ApiReview

/-- The finite binary64 number `± significand · 2 ^ exponent`.  The numbers that
`Binary64.ofRatio` builds have a significand below `2 ^ 53`, and one below
`2 ^ 52` only with the least exponent, `-1074`. -/
structure Finite64 where
  negative : Bool
  significand : Nat
  exponent : Int
deriving DecidableEq, Repr, Inhabited

/-- A binary64 number: finite, infinite, or not a number. -/
inductive Binary64 where
  | finite (value : Finite64)
  | infinite (negative : Bool)
  | nan
deriving DecidableEq, Repr, Inhabited

namespace Finite64

/-- Zero with the given sign. -/
def zero (negative : Bool) : Finite64 :=
  ⟨negative, 0, -1074⟩

/-- Is this one of the two zeros? -/
def isZero (x : Finite64) : Bool :=
  x.significand == 0

/-- The number with the other sign. -/
def neg (x : Finite64) : Finite64 :=
  { x with negative := !x.negative }

/-- The magnitude as a numerator and a denominator, the latter a power of two. -/
def magnitude (x : Finite64) : Nat × Nat :=
  if x.exponent < 0 then
    (x.significand, twoTo (-x.exponent).toNat)
  else
    (x.significand * twoTo x.exponent.toNat, 1)

/-- The signed numerator over the denominator of `magnitude`. -/
def numerator (x : Finite64) : Int :=
  if x.negative then -(x.magnitude.1 : Int) else x.magnitude.1

/-- Is the value of `x` below that of `y`?  The two zeros are equal. -/
def lt (x y : Finite64) : Bool :=
  x.numerator * y.magnitude.2 < y.numerator * x.magnitude.2

end Finite64

namespace Binary64

/-- The quotient `numerator / denominator` rounded to a natural number, an exact
half to the even one. -/
def roundHalfEven (numerator denominator : Nat) : Nat :=
  let quotient := numerator / denominator
  let rest := 2 * (numerator % denominator)
  if rest < denominator then quotient
  else if denominator < rest then quotient + 1
  else if quotient % 2 == 0 then quotient
  else quotient + 1

/-- The exponent of the grid on which the quotient `numerator / denominator`
has 53 binary digits, and never less than `-1074`. -/
def gridExponent (numerator denominator : Nat) : Int :=
  let guess : Int := (numerator.log2 : Int) - denominator.log2 - 52
  let enough :=
    if guess < 0 then
      twoTo 52 * denominator ≤ numerator * twoTo (-guess).toNat
    else
      twoTo 52 * denominator * twoTo guess.toNat ≤ numerator
  max (if enough then guess else guess - 1) (-1074)

/-- The binary64 number nearest to `± numerator / denominator`, an exact half
going to the even significand; infinite from the middle between the largest
finite number and the next power of two. -/
def ofRatio (negative : Bool) (numerator denominator : Nat) : Binary64 :=
  if numerator == 0 || denominator == 0 then
    .finite (.zero negative)
  else
    let grid := gridExponent numerator denominator
    let rounded :=
      if grid < 0 then
        roundHalfEven (numerator * twoTo (-grid).toNat) denominator
      else
        roundHalfEven numerator (denominator * twoTo grid.toNat)
    let (significand, exponent) :=
      if rounded == twoTo 53 then (twoTo 52, grid + 1) else (rounded, grid)
    if 971 < exponent then
      .infinite negative
    else if significand == 0 then
      .finite (.zero negative)
    else
      .finite ⟨negative, significand, exponent⟩

def ofNat (n : Nat) : Binary64 :=
  ofRatio false n 1

/-- The binary64 number nearest to an integer. -/
def ofInt (n : Int) : Binary64 :=
  ofRatio (n < 0) n.natAbs 1

/-- The binary64 number nearest to `± digits · 10 ^ exponent`.  Exponents far
outside of the range give zero or infinity without computing the power. -/
def ofDecimal (negative : Bool) (digits : Nat) (exponent : Int) : Binary64 :=
  if digits == 0 then
    .finite (.zero negative)
  else if exponent < 0 then
    if 400 + (digits.log2 : Int) < -exponent then
      .finite (.zero negative)
    else
      ofRatio negative digits (tenTo (-exponent).toNat)
  else if 400 < exponent then
    .infinite negative
  else
    ofRatio negative (digits * tenTo exponent.toNat) 1

/-- The order of binary64 numbers; nothing is below or above what is not a
number. -/
def lt : Binary64 → Binary64 → Bool
  | .finite x, .finite y => x.lt y
  | .infinite true, .infinite false => true
  | .infinite true, .finite _ => true
  | .finite _, .infinite false => true
  | _, _ => false

end Binary64

end ApiReview
