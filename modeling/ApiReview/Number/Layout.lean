import ApiReview.Number.Shortest

/-!
# Writing binary64 numbers

Three layouts of the shortest decimal are in use.  JSON output goes over to an
exponent outside of `10 ^ -5 .. 10 ^ 15` and always shows a fraction before
that; messages about bounds never use an exponent and show no empty fraction;
messages about a mistyped YAML value never use an exponent either, but always
show a fraction.
-/

namespace ApiReview

namespace Decimal

/-- How many digits stand before the decimal point. -/
def pointPosition (d : Decimal) : Int :=
  (d.digitList.length : Int) + d.exponent

/-- The digits before and after the decimal point, without an exponent; the
part before it is at least `0`. -/
def positional (d : Decimal) : List Char × List Char :=
  let digits := d.digitList
  let point := d.pointPosition
  if point ≤ 0 then
    (['0'], List.replicate (-point).toNat '0' ++ digits)
  else if digits.length ≤ point.toNat then
    (digits ++ List.replicate (point.toNat - digits.length) '0', [])
  else
    digits.splitAt point.toNat

end Decimal

namespace Finite64

/-- The minus sign of a negative number, negative zero included. -/
def sign (x : Finite64) : String :=
  if x.negative then "-" else ""

/-- The number without an exponent; `emptyFraction` is what stands in place of
a fraction that would be empty. -/
def plainWith (emptyFraction : String) (x : Finite64) : String :=
  if x.isZero then
    x.sign ++ "0" ++ emptyFraction
  else
    let (whole, fraction) := x.shortest.positional
    x.sign ++ String.ofList whole ++
      (if fraction.isEmpty then emptyFraction else "." ++ String.ofList fraction)

/-- The number with one digit before the point and an exponent with its sign. -/
def scientific (x : Finite64) : String :=
  let digits := x.shortest.digitList
  let exponent := x.shortest.pointPosition - 1
  let mantissa :=
    match digits with
    | [] => "0"
    | [d] => String.ofList [d]
    | d :: rest => String.ofList (d :: '.' :: rest)
  x.sign ++ mantissa ++ "e" ++ (if exponent < 0 then "-" else "+") ++
    toString exponent.natAbs

/-- The JSON text of the number. -/
def json (x : Finite64) : String :=
  let exponent := x.shortest.pointPosition - 1
  if x.isZero || (-5 ≤ exponent && exponent ≤ 15) then
    x.plainWith ".0"
  else
    x.scientific

end Finite64

namespace Binary64

/-- The text of a number in layout `f`, or the word for one that is not
finite. -/
def textWith (f : Finite64 → String) : Binary64 → String
  | .finite x => f x
  | .infinite negative => if negative then "-inf" else "inf"
  | .nan => "NaN"

/-- Plain decimal without an empty fraction: `5`, `0.0000001`. -/
def plain (x : Binary64) : String :=
  x.textWith (Finite64.plainWith "")

/-- Plain decimal that always shows a fraction: `5.0`. -/
def plainWithPoint (x : Binary64) : String :=
  x.textWith (Finite64.plainWith ".0")

/-- The JSON layout, also used when a message of a JSON text names the number. -/
def json (x : Binary64) : String :=
  x.textWith Finite64.json

end Binary64

end ApiReview
