import ApiReview.Pattern.Reader
import ApiReview.Text.Letter

/-!
# Groups and flags

A group can have a name or flags of its own, and flags can also be set for the
rest of the group around them.
-/

namespace ApiReview.Pattern

open Reader

namespace Group

/-- May a character stand in the name of a group? -/
def isNameChar (first : Bool) (c : Char) : Bool :=
  if first then c == '_' || Text.isLetter c
  else c == '_' || c == '.' || c == '[' || c == ']' || Text.isLetterOrNumber c

/-- The name of a group up to its closing bracket; `first` tells whether nothing
was read yet. -/
def nameRest (first : Bool) : Nat → Reader (List Char)
  | 0 => throw .groupNameUnclosed
  | fuel + 1 => do
    match ← peek with
    | none => throw .groupNameUnclosed
    | some '>' =>
      skip
      return []
    | some c =>
      if isNameChar first c then
        skip
        return c :: (← nameRest false fuel)
      else
        throw .groupNameCharacter

/-- The name of a group, which no other group may have. -/
def name : Reader Unit := do
  let letters ← nameRest true ((← get).rest.length + 1)
  let name := String.ofList letters
  if letters.isEmpty then throw .groupNameEmpty
  else if (← get).names.contains name then throw .groupNameTwice
  else modify fun s => { s with names := name :: s.names }

/-- Flags up to a colon or a closing parenthesis.  `done` holds the ones read
before, `off` tells whether a minus sign was read, and `dangling` whether it was
the last thing read. -/
def flags (done : FlagChanges) (off dangling : Bool) : Nat → Reader FlagChanges
  | 0 => throw .flagCutShort
  | fuel + 1 => do
    match ← peek with
    | none => throw .flagCutShort
    | some c =>
      if c == ':' || c == ')' then
        if dangling then throw .flagMinusDangling else return done.reverse
      else if c == '-' then
        if off then throw .flagMinusTwice
        else
          skip
          flags done true true fuel
      else
        match Flag.ofChar? c with
        | none => throw .flagUnknown
        | some flag =>
          if done.any (·.1 == flag) then throw .flagTwice
          else
            skip
            flags ((flag, !off) :: done) off false fuel

inductive Start where
  /-- Flags for the rest of the group around. -/
  | setting (changes : FlagChanges)
  | opened (capturing : Bool) (changes : FlagChanges)

def start : Reader Start := do
  skip
  skipGaps
  if ← takeText "?=" then throw .lookAround
  else if ← takeText "?!" then throw .lookAround
  else if ← takeText "?<=" then throw .lookAround
  else if ← takeText "?<!" then throw .lookAround
  else if ← takeText "?P<" then
    name
    return .opened true []
  else if ← takeText "?<" then
    name
    return .opened true []
  else if ← takeText "?" then
    if ← atEnd then
      throw .groupUnclosed
    else
      let changes ← flags [] false false ((← get).rest.length + 1)
      let setting := (← peek) == some ')'
      skip
      if !setting then return .opened false changes
      else if changes.isEmpty then throw .nothingToRepeat
      else return .setting changes
  else
    return .opened true []

end Group

end ApiReview.Pattern
