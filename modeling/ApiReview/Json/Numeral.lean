import ApiReview.Json.Cursor
import ApiReview.Number.Power

/-!
# Numbers in JSON texts

A number without fraction and exponent that fits 64 bits is an integer.  Any
other number is a binary64 number that is computed in two roundings: the first
nineteen or twenty significant digits, as far as they fit 64 bits, are rounded,
and the result is multiplied or divided by a rounded power of ten.  The outcome
can therefore differ in the last digit from the number nearest to the text.
-/

namespace ApiReview.Json

/-- The largest integer of 64 bits. -/
def maxWord : Nat :=
  twoTo 64 - 1

/-- `10 ^ n`, rounded. -/
def powerOfTen (n : Nat) : Binary64 :=
  .ofNat (tenTo n)

/-- The product of two numbers, rounded. -/
def product : Binary64 → Binary64 → Binary64
  | .finite x, .finite y =>
    let (a, b) := x.magnitude
    let (c, d) := y.magnitude
    .ofRatio (x.negative != y.negative) (a * c) (b * d)
  | _, _ => .nan

/-- The quotient of two numbers, rounded; the second one is not zero. -/
def quotient : Binary64 → Binary64 → Binary64
  | .finite x, .finite y =>
    let (a, b) := x.magnitude
    let (c, d) := y.magnitude
    .ofRatio (x.negative != y.negative) (a * d) (b * c)
  | _, _ => .nan

/-- Divide by the largest power of ten, `10 ^ 308`, as long as the exponent is
below `-308` and anything is left, and then by the rest. -/
def scaleDown : Nat → Binary64 → Nat → Binary64
  | 0, x, _ => x
  | fuel + 1, x, exponent =>
    if exponent ≤ 308 then quotient x (powerOfTen exponent)
    else if x == .finite (.zero false) then x
    else scaleDown fuel (quotient x (powerOfTen 308)) (exponent - 308)

/-- `significand · 10 ^ exponent`; none when that is too large. -/
def scaled (significand : Nat) (exponent : Int) : Option Finite64 :=
  let x := Binary64.ofNat significand
  let result :=
    if exponent < 0 then scaleDown 8 x (-exponent).toNat
    else if exponent ≤ 308 then product x (powerOfTen exponent.toNat)
    else if significand == 0 then x
    else .nan
  match result with
  | .finite y => some y
  | _ => none

/-- Add digits to a significand as long as it fits 64 bits; the second part is
how many of them were added. -/
def fitDigits : List Char → Nat → Nat → Nat × Nat
  | [], significand, used => (significand, used)
  | d :: rest, significand, used =>
    let more := 10 * significand + (d.toNat - '0'.toNat)
    if maxWord < more then (significand, used) else fitDigits rest more (used + 1)

namespace Scanner

def real (negative : Bool) (significand : Nat) (exponent : Int) : Scanner Number :=
  match scaled significand exponent with
  | some x => pure (.real (if negative then x.neg else x))
  | none => faultHere .numberOutOfRange

/-- The largest exponent that is not cut short. -/
def maxExponent : Nat :=
  twoTo 31 - 1

/-- The digits of an exponent up to the one with which it exceeds
`maxExponent`, which is moved over but not added; the flag tells whether there
is one. -/
def exponentDigits : Nat → Nat → Scanner (Nat × Bool)
  | 0, value => pure (value, false)
  | fuel + 1, value => do
    match ← peek with
    | some d =>
      if d.isDigit then
        skip
        let more := 10 * value + (d.toNat - '0'.toNat)
        if maxExponent < more then pure (value, true) else exponentDigits fuel more
      else
        pure (value, false)
    | none => pure (value, false)

/-- The rest of a number behind its `e`. -/
def exponent (negative : Bool) (significand : Nat) (start : Int) : Scanner Number := do
  skip
  let down ←
    match ← peek with
    | some '+' => do skip; pure false
    | some '-' => do skip; pure true
    | _ => pure false
  match ← peek with
  | none => faultHere .endInValue
  | some d =>
    if !d.isDigit then
      faultNext .invalidNumber
    else
      skip
      let (value, tooLong) ←
        exponentDigits ((← get).rest.length + 1) (d.toNat - '0'.toNat)
      if tooLong then
        if significand != 0 && !down then
          faultHere .numberOutOfRange
        else
          let _ ← digits
          pure (.real (.zero negative))
      else
        real negative significand (if down then start - value else start + value)

/-- The rest of a number behind the digits that make up `significand`. -/
def afterDigits (negative : Bool) (significand : Nat) (start : Int) : Scanner Number := do
  match ← peek with
  | some 'e' => exponent negative significand start
  | some 'E' => exponent negative significand start
  | _ => real negative significand start

/-- The rest of a number behind its point. -/
def fraction (negative : Bool) (significand : Nat) (start : Int) : Scanner Number := do
  skip
  let ds ← digits
  if ds.isEmpty then
    match ← peek with
    | some _ => faultNext .invalidNumber
    | none => faultNext .endInValue
  else
    let (significand', used) := fitDigits ds significand 0
    afterDigits negative significand' (start - used)

/-- The rest of a number behind its whole part.  `dropped` digits of the whole
part did not fit the significand. -/
def afterWhole (negative : Bool) (significand dropped : Nat) : Scanner Number := do
  match ← peek with
  | some '.' => fraction negative significand dropped
  | some 'e' => exponent negative significand dropped
  | some 'E' => exponent negative significand dropped
  | _ =>
    if dropped != 0 then
      real negative significand dropped
    else if !negative then
      pure (.integer significand)
    else if significand == 0 || twoTo 63 < significand then
      match Binary64.ofNat significand with
      | .finite x => pure (.real x.neg)
      | _ => faultHere .numberOutOfRange
    else
      pure (.integer (-significand))

/-- A number behind its minus sign, if it has one. -/
def numeral (negative : Bool) : Scanner Number := do
  match ← peek with
  | none => faultHere .endInValue
  | some '0' =>
    skip
    match ← peek with
    | some d => if d.isDigit then faultNext .invalidNumber else afterWhole negative 0 0
    | none => afterWhole negative 0 0
  | some d =>
    if d.isDigit then
      let ds ← digits
      let (significand, used) := fitDigits ds 0 0
      afterWhole negative significand (ds.length - used)
    else
      faultNext .invalidNumber

/-- Move over the digits behind a point, of which there must be one. -/
def passFraction : Scanner Unit := do
  skip
  if (← digits).isEmpty then faultNext .invalidNumber else pure ()

/-- Move over an exponent, which must have a digit. -/
def passExponent : Scanner Unit := do
  skip
  match ← peek with
  | some '+' => skip
  | some '-' => skip
  | _ => pure ()
  if (← digits).isEmpty then faultNext .invalidNumber else pure ()

/-- Move over a number that nobody looks at, behind its minus sign if it has
one. -/
def passNumeral : Scanner Unit := do
  match ← peek with
  | some '0' =>
    skip
    match ← peek with
    | some d => if d.isDigit then faultNext .invalidNumber else pure ()
    | none => pure ()
  | some d =>
    if d.isDigit then
      let _ ← digits
      pure ()
    else
      faultNext .invalidNumber
  | none => faultNext .invalidNumber
  match ← peek with
  | some '.' =>
    passFraction
    match ← peek with
    | some 'e' => passExponent
    | some 'E' => passExponent
    | _ => pure ()
  | some 'e' => passExponent
  | some 'E' => passExponent
  | _ => pure ()

end Scanner

end ApiReview.Json
