import ApiReview.Number.FromText
import ApiReview.Text.Cut

/-!
# Dates and times

TOML knows days, times of day, and both together, then also with a distance from
universal time.  They are only checked and spelled anew: a blank or a small
letter between day and time becomes a `T`, and of a fraction of a second at most
nine digits stay, without the zeros at its end.
-/

namespace ApiReview.Toml

/-- A day of the calendar. -/
structure Day where
  year : Nat
  month : Nat
  day : Nat
deriving DecidableEq, Repr

/-- A time of day; the fraction is given by its digits. -/
structure Clock where
  hour : Nat
  minute : Nat
  second : Nat
  fraction : List Char := []
deriving DecidableEq, Repr

/-- The distance from universal time. -/
inductive Offset where
  | universal
  | shifted (behind : Bool) (hours minutes : Nat)
deriving DecidableEq, Repr

/-- A day, a time, or both. -/
inductive Moment where
  | day (d : Day)
  | clock (c : Clock)
  | both (d : Day) (c : Clock) (offset : Option Offset)
deriving DecidableEq, Repr

/-- A number with zeros in front up to a width. -/
def padded (width n : Nat) : String :=
  let digits := toString n
  String.ofList (List.replicate (width - digits.length) '0') ++ digits

def Day.text (d : Day) : String :=
  padded 4 d.year ++ "-" ++ padded 2 d.month ++ "-" ++ padded 2 d.day

/-- The text of a time. -/
def Clock.text (c : Clock) : String :=
  padded 2 c.hour ++ ":" ++ padded 2 c.minute ++ ":" ++ padded 2 c.second ++
    (if c.fraction.isEmpty then "" else "." ++ String.ofList c.fraction)

/-- The text of a distance; no distance at all is written as one ahead. -/
def Offset.text : Offset → String
  | .universal => "Z"
  | .shifted behind hours minutes =>
    (if behind && hours + minutes != 0 then "-" else "+") ++ padded 2 hours ++ ":" ++
      padded 2 minutes

def Moment.text : Moment → String
  | .day d => d.text
  | .clock c => c.text
  | .both d c offset =>
    d.text ++ "T" ++ c.text ++ ((offset.map Offset.text).getD "")

/-- The number that exactly `count` digits give, between two bounds. -/
def digitsBetween? (count least greatest : Nat) (chars : List Char) : Option Nat :=
  if chars.length = count ∧ chars.all Char.isDigit then
    (natOfDigits? 10 chars).filter fun n => least ≤ n && n ≤ greatest
  else
    none

def daysIn (year month : Nat) : Nat :=
  if month = 2 then
    if year % 4 = 0 ∧ (year % 100 ≠ 0 ∨ year % 400 = 0) then 29 else 28
  else if month = 4 ∨ month = 6 ∨ month = 9 ∨ month = 11 then 30
  else 31

def Day.ofChars? (chars : List Char) : Option Day := do
  match Text.cutList (· == '-') chars with
  | [year, month, day] =>
    let year ← digitsBetween? 4 0 9999 year
    let month ← digitsBetween? 2 1 12 month
    let day ← digitsBetween? 2 1 (daysIn year month) day
    return ⟨year, month, day⟩
  | _ => none

def keptFraction (digits : List Char) : List Char :=
  ((digits.take 9).reverse.dropWhile (· == '0')).reverse

/-- The time that a text gives; the sixtieth second is one that is put in. -/
def Clock.ofChars? (chars : List Char) : Option Clock := do
  match Text.cutList (· == ':') chars with
  | [hour, minute, second] =>
    let hour ← digitsBetween? 2 0 23 hour
    let minute ← digitsBetween? 2 0 59 minute
    match Text.cutList (· == '.') second with
    | [second] => return ⟨hour, minute, ← digitsBetween? 2 0 60 second, []⟩
    | [second, digits] =>
      if digits.isEmpty || !digits.all Char.isDigit then none
      return ⟨hour, minute, ← digitsBetween? 2 0 60 second, keptFraction digits⟩
    | _ => none
  | _ => none

/-- The distance that a text gives. -/
def Offset.ofChars? : List Char → Option Offset
  | ['Z'] | ['z'] => some .universal
  | sign :: rest => do
    if sign != '+' && sign != '-' then none
    match Text.cutList (· == ':') rest with
    | [hours, minutes] =>
      return .shifted (sign == '-') (← digitsBetween? 2 0 23 hours)
        (← digitsBetween? 2 0 59 minutes)
    | _ => none
  | [] => none

/-- A time and the distance behind it. -/
def clockAndOffset? (chars : List Char) : Option (Clock × Option Offset) :=
  let isClockChar (c : Char) : Bool := c.isDigit || c == ':' || c == '.'
  let rest := chars.dropWhile isClockChar
  match Clock.ofChars? (chars.takeWhile isClockChar) with
  | some clock =>
    if rest.isEmpty then some (clock, none)
    else (Offset.ofChars? rest).map fun offset => (clock, some offset)
  | none => none

/-- The moment that a text without blanks gives. -/
def Moment.ofChars? (chars : List Char) : Option Moment :=
  let (front, behind) := chars.splitAt 10
  match Day.ofChars? front, behind with
  | some d, [] => some (.day d)
  | some d, mark :: rest =>
    if mark == 'T' || mark == 't' then
      (clockAndOffset? rest).map fun (c, offset) => .both d c offset
    else none
  | none, _ => (Clock.ofChars? chars).map .clock

end ApiReview.Toml
