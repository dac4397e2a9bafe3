import ApiReview.Toml.Moment

/-!
# The time of a report

A time is a number of nanoseconds since the start of 1970 in universal time.  It
is written as a day and a time of day; the fraction of a second has three, six or
nine digits, as few as it needs, or is left out.
-/

namespace ApiReview.Report

open Toml (Day Clock Moment padded)

/-- The day that is the given number of days behind the first of January 1970.
Years are counted from March on, so that the day that is put in comes last. -/
def dayOfNumber (number : Nat) : Day :=
  let shifted := number + 719468
  let era := shifted / 146097
  let dayOfEra := shifted % 146097
  let yearOfEra := (dayOfEra - dayOfEra / 1460 + dayOfEra / 36524 - dayOfEra / 146096) / 365
  let dayOfYear := dayOfEra - (365 * yearOfEra + yearOfEra / 4 - yearOfEra / 100)
  let monthFromMarch := (5 * dayOfYear + 2) / 153
  let day := dayOfYear - (153 * monthFromMarch + 2) / 5 + 1
  let month := if monthFromMarch < 10 then monthFromMarch + 3 else monthFromMarch - 9
  let year := yearOfEra + era * 400 + (if month ≤ 2 then 1 else 0)
  ⟨year, month, day⟩

def fractionDigits (nanoseconds : Nat) : List Char :=
  let digits := (padded 9 nanoseconds).toList
  if nanoseconds = 0 then []
  else if nanoseconds % 1000000 = 0 then digits.take 3
  else if nanoseconds % 1000 = 0 then digits.take 6
  else digits

def timeText (nanoseconds : Nat) : String :=
  let seconds := nanoseconds / 1000000000
  let ofDay := seconds % 86400
  let clock : Clock :=
    ⟨ofDay / 3600, ofDay / 60 % 60, ofDay % 60, fractionDigits (nanoseconds % 1000000000)⟩
  (Moment.both (dayOfNumber (seconds / 86400)) clock (some .universal)).text

end ApiReview.Report
