import ApiReview.Number.Binary64

/-!
# The shortest decimal that reads back

Among the decimals that round to a binary64 number, the ones with the fewest
digits are candidates, and the one nearest to the number is its printed value.
For a given digit count only the two neighbours of the number on that decimal
grid have to be looked at: if any point of the grid lies in the interval of
reals that round to the number, one of the two neighbours does.
-/

namespace ApiReview

/-- The decimal `digits · 10 ^ exponent`. -/
structure Decimal where
  digits : Nat
  exponent : Int
deriving DecidableEq, Repr

namespace Decimal

/-- The digits from the most significant one on. -/
def digitList (d : Decimal) : List Char :=
  Nat.toDigits 10 d.digits

/-- The same decimal without zeros at the end of its digits. -/
def normalize (d : Decimal) : Decimal :=
  go 20 d
where
  /-- Take off one zero after the other, `fuel` at most. -/
  go : Nat → Decimal → Decimal
    | 0, d => d
    | fuel + 1, d =>
      if d.digits != 0 && d.digits % 10 == 0 then
        go fuel ⟨d.digits / 10, d.exponent + 1⟩
      else
        d

end Decimal

namespace Finite64

/-- The interval of reals that round to a nonzero magnitude, in quarters of the
unit `2 ^ exponent`: below, the magnitude itself, above, and whether the ends
belong to it. -/
structure Interval where
  below : Nat
  middle : Nat
  above : Nat
  closed : Bool

/-- The gap below a power of two is half of the gap above it, except at the
least exponent. -/
def interval (x : Finite64) : Interval where
  below :=
    if x.significand == twoTo 52 && x.exponent != -1074 then
      4 * x.significand - 1
    else
      4 * x.significand - 2
  middle := 4 * x.significand
  above := 4 * x.significand + 2
  closed := x.significand % 2 == 0

/-- The numerator and the denominator by which quarters of the unit have to be
multiplied and divided to count steps of `10 ^ step`. -/
def scale (x : Finite64) (step : Int) : Nat × Nat :=
  let unit := x.exponent - 2
  (twoTo unit.toNat * tenTo (-step).toNat, twoTo (-unit).toNat * tenTo step.toNat)

/-- The exponent of the leading decimal digit of a nonzero magnitude. -/
def leadingExponent (x : Finite64) : Int :=
  let guess := ((x.significand.log2 : Int) + x.exponent) * 30103 / 100000
  let reaches (e : Int) : Bool :=
    let (up, down) := x.scale e
    down ≤ 4 * x.significand * up
  if !reaches guess then guess - 1
  else if reaches (guess + 1) then guess + 1
  else guess

/-- The neighbours of a nonzero magnitude on the grid of the multiples of
`10 ^ step` that round to it, the nearer one first (of two equally near ones
the even one); none when both round to another number. -/
def onGrid (x : Finite64) (step : Int) : Option Decimal :=
  let (up, down) := x.scale step
  let range := x.interval
  let middle := range.middle * up
  let lower := middle / down
  let inside (n : Nat) : Bool :=
    if range.closed then
      range.below * up ≤ n * down && n * down ≤ range.above * up
    else
      range.below * up < n * down && n * down < range.above * up
  let offset := 2 * (middle % down)
  let lowerFirst := offset < down || (offset == down && lower % 2 == 0)
  let (near, far) := if lowerFirst then (lower, lower + 1) else (lower + 1, lower)
  if near != 0 && inside near then some ⟨near, step⟩
  else if far != 0 && inside far then some ⟨far, step⟩
  else none

/-- The shortest decimal that reads back to the magnitude, the nearest one of
that length. -/
def shortest (x : Finite64) : Decimal :=
  if x.significand == 0 then
    ⟨0, 0⟩
  else
    let lead := x.leadingExponent
    let grids := (List.range 17).filterMap fun (n : Nat) => x.onGrid (lead - n)
    (grids.headD ⟨x.significand, x.exponent⟩).normalize

end Finite64

end ApiReview
