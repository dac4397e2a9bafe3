import ApiReview.Number.Binary64
import ApiReview.Text.Ascii

/-!
# Reading numbers

Integers are digits of some base behind an optional sign.  A binary64 number is
the nearest one to a decimal, which has a digit before or behind its point and
may have an exponent; the words for infinity and for no number are read in any
case.
-/

namespace ApiReview

/-- The value of a digit in bases up to 36. -/
def digitValue? (base : Nat) (c : Char) : Option Nat :=
  let value :=
    if c.isDigit then some (c.toNat - '0'.toNat)
    else if c.isAlpha then some (c.toLower.toNat - 'a'.toNat + 10)
    else none
  value.filter (· < base)

/-- The value of some digits of a base, of which there has to be one. -/
def natOfDigits? (base : Nat) : List Char → Option Nat
  | [] => none
  | digits =>
    digits.foldl (fun value c => do some (base * (← value) + (← digitValue? base c)))
      (some 0)

/-- The value of decimal digits behind an optional sign. -/
def intOfText? (s : String) : Option Int :=
  match s.toList with
  | '-' :: digits => (natOfDigits? 10 digits).map fun n => -(n : Int)
  | '+' :: digits => (natOfDigits? 10 digits).map fun n => (n : Int)
  | digits => (natOfDigits? 10 digits).map fun n => (n : Int)

namespace Binary64

/-- The exponent of a decimal behind its mark, zero when there is none. -/
def exponent? : List Char → Option Int
  | [] => some 0
  | c :: rest => if c == 'e' || c == 'E' then intOfText? (String.ofList rest) else none

/-- The number with a sign whose magnitude is written as a decimal. -/
def ofUnsigned? (negative : Bool) (chars : List Char) : Option Binary64 :=
  let whole := chars.takeWhile Char.isDigit
  let (fraction, rest) :=
    match chars.dropWhile Char.isDigit with
    | '.' :: rest => (rest.takeWhile Char.isDigit, rest.dropWhile Char.isDigit)
    | rest => ([], rest)
  match natOfDigits? 10 (whole ++ fraction), exponent? rest with
  | some digits, some exponent =>
    some (.ofDecimal negative digits (exponent - fraction.length))
  | _, _ => none

def ofWord? (negative : Bool) (word : String) : Option Binary64 :=
  let lower := Text.asciiLower word
  if lower == "inf" || lower == "infinity" then some (.infinite negative)
  else if lower == "nan" then some .nan
  else none

def ofText? (s : String) : Option Binary64 :=
  let (negative, chars) :=
    match s.toList with
    | '-' :: rest => (true, rest)
    | '+' :: rest => (false, rest)
    | chars => (false, chars)
  match ofUnsigned? negative chars with
  | some x => some x
  | none => ofWord? negative (String.ofList chars)

end Binary64

end ApiReview
