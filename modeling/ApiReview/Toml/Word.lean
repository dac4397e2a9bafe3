import ApiReview.Number.Power
import ApiReview.Toml.Value

/-!
# Words

A value that is neither quoted nor bracketed is one word: a truth value, a
number, or a moment.  Digits of a number may be separated by single underscores;
an integer has 64 bits and, if it is decimal, no needless zero in front.
-/

namespace ApiReview.Toml

/-- The digits without the underscores between them. -/
def ungrouped? (isDigit : Char → Bool) : List Char → Option (List Char)
  | [] => none
  | [c] => if isDigit c then some [c] else none
  | c :: '_' :: d :: rest => do
    if !isDigit c then none
    return c :: (← ungrouped? isDigit (d :: rest))
  | c :: rest => do
    if !isDigit c then none
    return c :: (← ungrouped? isDigit rest)

/-- Decimal digits without a needless zero in front, ungrouped. -/
def wholePart? (chars : List Char) : Option (List Char) :=
  (ungrouped? Char.isDigit chars).filter fun digits =>
    digits.length = 1 || digits.head? != some '0'

/-- A text behind its sign, and whether the sign is a minus. -/
def splitSign : List Char → Bool × List Char
  | '-' :: rest => (true, rest)
  | '+' :: rest => (false, rest)
  | chars => (false, chars)

/-- A number with the given sign, if 64 bits hold it. -/
def signed64? (negative : Bool) (magnitude : Nat) : Option Int :=
  let n : Int := if negative then -(magnitude : Int) else magnitude
  if fitsSigned 64 n then some n else none

/-- The number that digits of a base give, which may be grouped. -/
def magnitude? (base : Nat) (chars : List Char) : Option Nat :=
  (ungrouped? (fun c => (digitValue? base c).isSome) chars).bind (natOfDigits? base)

def integer? : List Char → Option Int
  | '0' :: 'x' :: digits => (magnitude? 16 digits).bind (signed64? false)
  | '0' :: 'o' :: digits => (magnitude? 8 digits).bind (signed64? false)
  | '0' :: 'b' :: digits => (magnitude? 2 digits).bind (signed64? false)
  | chars =>
    let (negative, digits) := splitSign chars
    (wholePart? digits).bind fun digits =>
      (natOfDigits? 10 digits).bind (signed64? negative)

/-- The exponent that the text behind its mark gives. -/
def exponent? (chars : List Char) : Option Int := do
  let (negative, digits) := splitSign chars
  let n ← natOfDigits? 10 (← ungrouped? Char.isDigit digits)
  return if negative then -(n : Int) else n

/-- The number with a fraction or an exponent that a word gives.  It must not be
too large, but it may be too small. -/
def decimal? (chars : List Char) : Option Binary64 := do
  let (negative, unsigned) := splitSign chars
  let isMark (c : Char) : Bool := c == 'e' || c == 'E'
  let mantissa := unsigned.takeWhile fun c => !isMark c
  let exponent ←
    match unsigned.drop mantissa.length with
    | [] => some 0
    | _ :: behind => exponent? behind
  let (whole, fraction) ←
    match Text.cutList (· == '.') mantissa with
    | [whole] =>
      if mantissa.length = unsigned.length then none
      some (← wholePart? whole, [])
    | [whole, fraction] => some (← wholePart? whole, ← ungrouped? Char.isDigit fraction)
    | _ => none
  let digits ← natOfDigits? 10 (whole ++ fraction)
  match Binary64.ofDecimal negative digits (exponent - fraction.length) with
  | .infinite false => none
  | x => some x

/-- The number that a word for infinity or for no number gives. -/
def special? (chars : List Char) : Option Binary64 :=
  let (negative, word) := splitSign chars
  if word == ['i', 'n', 'f'] then some (.infinite negative)
  else if word == ['n', 'a', 'n'] then some .nan
  else none

def word? (chars : List Char) : Option Value :=
  if chars == ['t', 'r', 'u', 'e'] then some (.flag true)
  else if chars == ['f', 'a', 'l', 's', 'e'] then some (.flag false)
  else
    match Moment.ofChars? chars with
    | some m => some (.moment m)
    | none =>
      match integer? chars with
      | some n => some (.integer n)
      | none =>
        match decimal? chars with
        | some x => some (.real x)
        | none => (special? chars).map .real

end ApiReview.Toml
