import ApiReview.Number.FromText
import ApiReview.Number.Power
import ApiReview.Pattern.Reader

/-!
# Counted repetitions

A count between braces gives the least and the greatest number of times that the
part before it is repeated.
-/

namespace ApiReview.Pattern

open Reader

namespace Count

def digits : Nat → Reader (List Char)
  | 0 => return []
  | fuel + 1 => do
    match ← peek with
    | some c =>
      if c.isDigit then
        let _ ← advance
        return c :: (← digits fuel)
      else
        return []
    | none => return []

def skipBlanks : Reader Unit :=
  modify fun s => { s with rest := s.rest.dropWhile Text.isBlankChar }

/-- A decimal of 32 bits between blanks.  The fault is part of the result, since
others can come before it. -/
def decimal : Reader (Except Fault Nat) := do
  skipBlanks
  let text ← digits ((← get).rest.length + 1)
  skipBlanks
  skipGaps
  match natOfDigits? 10 text with
  | none => return .error .countNoDecimal
  | some n => return if n < twoTo 32 then .ok n else .error .decimalInvalid

/-- The question mark that may follow a repetition. -/
def skipLazy : Reader Unit := do
  if (← peek) == some '?' then
    skip

/-- The least and the greatest count, at the opening brace. -/
def read : Reader (Nat × Option Nat) := do
  if !(← advance) then
    throw .countUnclosed
  let least ← decimal
  match ← peek with
  | none => throw .countUnclosed
  | some ',' =>
    if !(← advance) then
      throw .countUnclosed
    else if (← peek) == some '\x7d' then
      return (← least, none)
    else
      let least ← least
      let most ← decimal
      return (least, some (← most))
  | some _ =>
    let count ← least
    return (count, some count)

/-- A counted repetition of a pattern, at the opening brace. -/
def repeated (body : Tree) : Reader Tree := do
  let (least, most) ← read
  if (← peek) != some '\x7d' then
    throw .countUnclosed
  let _ ← advance
  skipLazy
  if most.any (· < least) then throw .countOrder
  else return .repetition least most body

end Count

end ApiReview.Pattern
