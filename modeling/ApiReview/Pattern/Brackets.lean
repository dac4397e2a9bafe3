import ApiReview.Pattern.Escape

/-!
# Classes between brackets

A class lists characters, ranges and other classes, and two sets can be combined
by an operator.  Some signs are literal at the start of a class.
-/

namespace ApiReview.Pattern

open Reader

namespace Brackets

/-- The names of the classes of ASCII characters. -/
def asciiNames : List String :=
  ["alnum", "alpha", "ascii", "blank", "cntrl", "digit", "graph", "lower", "print",
   "punct", "space", "upper", "word", "xdigit"]

/-- A named class of ASCII characters, at its bracket; nothing is read when there
is none. -/
def ascii? : Reader (Option ClassTree) := do
  let s ← get
  let (negated, text) :=
    match s.rest with
    | '[' :: ':' :: '^' :: text => (true, some text)
    | '[' :: ':' :: text => (false, some text)
    | _ => (false, none)
  match text with
  | none => return none
  | some text =>
    let name := String.ofList (text.takeWhile (· != ':'))
    match text.dropWhile (· != ':') with
    | ':' :: ']' :: rest =>
      if asciiNames.contains name then
        set { s with rest }
        return some (.ascii name negated)
      else
        return none
    | _ => return none

/-- One item, which can also turn out to be the start of a range. -/
def item : Reader Tree := do
  match ← peek with
  | some '\\' => Escape.read
  | some c =>
    skip
    return .literal { char := c }
  | none => throw .classUnclosed

def single : Tree → Reader ClassTree
  | .literal l => return .literal l
  | .common kind negated => return .common kind negated
  | .property name negated => return .property name negated
  | _ => throw .classEscape

def endOfRange : Tree → Reader Literal
  | .literal l => return l
  | _ => throw .classRangeEnd

def itemOrRange : Reader ClassTree := do
  let first ← item
  skipGaps
  match ← peek with
  | none => throw .classUnclosed
  | some c =>
    let beyond ← peekBeyond
    if c != '-' || beyond == some ']' || beyond == some '-' then
      single first
    else if !(← advance) then
      throw .classUnclosed
    else
      let last ← item
      let first ← endOfRange first
      let last ← endOfRange last
      if last.char < first.char then throw .classRangeOrder
      else return .range first last

/-- The hyphens at the start of a class, which stand for themselves. -/
def hyphens : Nat → Reader (List ClassTree)
  | 0 => return []
  | fuel + 1 => do
    if (← peek) == some '-' then
      if !(← advance) then
        throw .classUnclosed
      else
        return .literal { char := '-' } :: (← hyphens fuel)
    else
      return []

/-- The start of a class, at its bracket: whether it is negated, and the items
that are literal only at the start. -/
def opening : Reader (Bool × List ClassTree) := do
  if !(← advance) then
    throw .classUnclosed
  else
    let negated := (← peek) == some '^'
    let anythingLeft ← if negated then advance else pure true
    if !anythingLeft then
      throw .classUnclosed
    else
      let items ← hyphens ((← get).rest.length + 1)
      if items.isEmpty && (← peek) == some ']' then
        if !(← advance) then throw .classUnclosed
        else return (negated, [.literal { char := ']' }])
      else
        return (negated, items)

/-- The sign of an operator between two sets. -/
def operator? : Reader (Option SetOperator) := do
  if ← takeText "&&" then return some .intersection
  else if ← takeText "--" then return some .difference
  else if ← takeText "~~" then return some .symmetricDifference
  else return none

/-- A set, with what stands before the operator in front of it. -/
def combine (before : Option (SetOperator × ClassTree)) (items : List ClassTree) :
    ClassTree :=
  let set := ClassTree.ofItems items.reverse
  match before with
  | some (operator, left) => .combined operator left set
  | none => set

mutual

def bracketed : Nat → Reader ClassTree
  | 0 => throw .classUnclosed
  | fuel + 1 => do
    let (negated, items) ← opening
    return .bracketed negated (← inside none items.reverse fuel)

/-- The rest of a class; `items` were read since the last operator, the last one
first. -/
def inside (before : Option (SetOperator × ClassTree)) (items : List ClassTree) :
    Nat → Reader ClassTree
  | 0 => throw .classUnclosed
  | fuel + 1 => do
    skipGaps
    match ← peek with
    | none => throw .classUnclosed
    | some '[' =>
      match ← ascii? with
      | some named => inside before (named :: items) fuel
      | none =>
        let nested ← bracketed fuel
        inside before (nested :: items) fuel
    | some ']' =>
      skip
      return combine before items
    | some _ =>
      match ← operator? with
      | some operator => inside (some (operator, combine before items)) [] fuel
      | none =>
        let next ← itemOrRange
        inside before (next :: items) fuel

end

end Brackets

end ApiReview.Pattern
