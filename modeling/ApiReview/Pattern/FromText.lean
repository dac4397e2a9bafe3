import ApiReview.Pattern.Brackets
import ApiReview.Pattern.Count
import ApiReview.Pattern.Group

/-!
# Reading patterns

The grammar of whole patterns: alternatives of sequences of parts, of which each
can be repeated.
-/

namespace ApiReview.Pattern

open Reader

def Tree.isRepeatable : Tree → Bool
  | .empty => false
  | .flags _ => false
  | _ => true

/-- The part that was read last, which a repetition takes. -/
def lastPart (parts : List Tree) : Reader (Tree × List Tree) :=
  match parts with
  | [] => throw .nothingToRepeat
  | part :: rest => if part.isRepeatable then return (part, rest) else throw .nothingToRepeat

/-- A sign that repeats the part before it. -/
def repetitionSign? : Char → Option (Nat × Option Nat)
  | '?' => some (0, some 1)
  | '*' => some (0, none)
  | '+' => some (1, none)
  | _ => none

/-- Switch the passing over of blanks as flags say. -/
def applySpacing (changes : FlagChanges) : Reader Unit :=
  match changes.lookup .ignoreSpace with
  | some on => modify fun s => { s with spaced := on }
  | none => return ()

mutual

/-- Alternatives up to the end of the group around them. -/
def readAlternatives : Nat → Reader Tree
  | 0 => return .empty
  | fuel + 1 => do
    let first ← readBranch [] fuel
    let rest ← readBranches fuel
    return if rest.isEmpty then first else .alternatives (first :: rest)

/-- The alternatives that follow, each behind its bar. -/
def readBranches : Nat → Reader (List Tree)
  | 0 => return []
  | fuel + 1 => do
    if (← peek) == some '|' then
      skip
      let first ← readBranch [] fuel
      return first :: (← readBranches fuel)
    else
      return []

/-- One alternative; `parts` were read before, the last one first. -/
def readBranch (parts : List Tree) : Nat → Reader Tree
  | 0 => return .ofParts parts.reverse
  | fuel + 1 => do
    skipGaps
    match ← peek with
    | none => return .ofParts parts.reverse
    | some c =>
      if c == ')' || c == '|' then
        return .ofParts parts.reverse
      else if c == '(' then
        let part ← readGroup fuel
        readBranch (part :: parts) fuel
      else if c == '[' then
        match ← Brackets.bracketed ((← get).rest.length + 2) with
        | .bracketed negated inside => readBranch (.bracketed negated inside :: parts) fuel
        | _ => readBranch parts fuel
      else if c == '\x7b' then
        let (body, before) ← lastPart parts
        let part ← Count.repeated body
        readBranch (part :: before) fuel
      else
        match repetitionSign? c with
        | some (least, most) =>
          let (body, before) ← lastPart parts
          skip
          Count.skipLazy
          readBranch (.repetition least most body :: before) fuel
        | none =>
          let part ← readPrimitive c
          readBranch (part :: parts) fuel

/-- A group or a setting of flags, at its parenthesis. -/
def readGroup : Nat → Reader Tree
  | 0 => return .empty
  | fuel + 1 => do
    match ← Group.start with
    | .setting changes =>
      applySpacing changes
      return .flags changes
    | .opened capturing changes =>
      let outer := (← get).spaced
      applySpacing changes
      let body ← readAlternatives fuel
      if (← peek) == some ')' then
        modify fun s => { s with spaced := outer }
        skip
        return .group capturing changes body
      else
        throw .groupUnclosed

/-- A part that is one character or one escape. -/
def readPrimitive (c : Char) : Reader Tree := do
  if c == '\\' then
    Escape.read
  else
    skip
    if c == '.' then return .dot
    else if c == '^' || c == '$' then return .bound
    else return .literal { char := c }

end

def Tree.ofText (text : String) : Except Fault Tree := do
  let rest := text.toList
  let (tree, s) ← (readAlternatives (4 * rest.length + 8)).run { rest }
  if s.rest.isEmpty then .ok tree else .error .groupUnopened

end ApiReview.Pattern
