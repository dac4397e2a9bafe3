/-!
# Sets of characters

A set of characters is kept as the ascending list of the code points at which
membership changes: below the first one nothing belongs to the set, from there
to the second one everything does, and so on.
-/

namespace ApiReview.Text

/-- A set of code points, given by the ascending points at which membership
changes. -/
structure CharSet where
  changes : Array Nat

namespace CharSet

/-- How many of the changes with indexes in `low ..< high` are at most `n`, plus
`low`, when all the earlier ones are; `fuel` halvings at most. -/
def rank (changes : Array Nat) (n : Nat) : Nat → Nat → Nat → Nat
  | 0, low, _ => low
  | fuel + 1, low, high =>
    if low < high then
      let middle := (low + high) / 2
      if changes.getD middle 0 ≤ n then
        rank changes n fuel (middle + 1) high
      else
        rank changes n fuel low middle
    else
      low

/-- A code point belongs to the set when the number of changes up to it is
odd. -/
def contains (set : CharSet) (c : Char) : Bool :=
  rank set.changes c.toNat 32 0 set.changes.size % 2 == 1

end CharSet

end ApiReview.Text
