import ApiReview.Pattern.Tree
import ApiReview.Text.Blank

/-!
# Moving through a pattern

A pattern is read from left to right, and the first fault ends the reading.
Where the flag `x` is on, blanks and comments between the parts do not count;
the flag holds to the end of the group in which it is set.
-/

namespace ApiReview.Pattern

/-- What is left of a pattern, whether blanks are passed over, and the names of
groups so far. -/
structure ReadState where
  rest : List Char
  spaced : Bool := false
  names : List String := []

abbrev Reader (α : Type) := StateT ReadState (Except Fault) α

namespace Reader

def peek : Reader (Option Char) := do
  return (← get).rest.head?

/-- The character behind the next one. -/
def peekSecond : Reader (Option Char) := do
  return (← get).rest.tail.head?

def atEnd : Reader Bool := do
  return (← get).rest.isEmpty

/-- Move over the next character. -/
def skip : Reader Unit :=
  modify fun s => { s with rest := s.rest.tail }

/-- The rest of a pattern behind blanks and comments; the flag tells whether a
comment is being passed. -/
def dropGaps : Bool → List Char → List Char
  | _, [] => []
  | true, c :: rest => if c == '\n' then dropGaps false rest else dropGaps true rest
  | false, c :: rest =>
    if Text.isBlankChar c then dropGaps false rest
    else if c == '#' then dropGaps true rest
    else c :: rest

/-- Move over blanks and comments, where they do not count. -/
def skipGaps : Reader Unit :=
  modify fun s => if s.spaced then { s with rest := dropGaps false s.rest } else s

/-- Move over the next character and what does not count behind it; true if
anything is left. -/
def advance : Reader Bool := do
  skip
  skipGaps
  return !(← atEnd)

/-- Move over a text, if it follows. -/
def takeText (text : String) : Reader Bool := do
  let s ← get
  if text.toList.isPrefixOf s.rest then
    set { s with rest := s.rest.drop text.length }
    return true
  else
    return false

/-- The next character behind the current one that counts.  A comment sign is
passed over with the blanks around it. -/
def peekBeyond : Reader (Option Char) := do
  let s ← get
  if !s.spaced then
    peekSecond
  else
    match s.rest.tail.dropWhile Text.isBlankChar with
    | '#' :: rest => return (rest.dropWhile Text.isBlankChar).head?
    | rest => return rest.head?

end Reader

end ApiReview.Pattern
