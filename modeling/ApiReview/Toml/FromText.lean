import ApiReview.Toml.Quoted
import ApiReview.Toml.Tables
import ApiReview.Toml.Word

/-!
# Reading TOML texts

A TOML text gives values to names, line by line.  Here only the values matter,
and that a text is not well-formed, but not in what way.  Lists and tables
between braces are nested at most 79 levels deep, and a dotted name has at most
79 parts.

All readers give what they read together with the rest behind it.
-/

namespace ApiReview.Toml

/-- A reading of an `α` from the start of a text. -/
abbrev Reader (α : Type) := List Char → Option (α × List Char)

/-- How many levels values are nested, and how many parts a dotted name has, at
most. -/
def levels : Nat :=
  79

/-- The text with each line break as a single character. -/
def unifyBreaks : List Char → List Char
  | '\r' :: '\n' :: rest => '\n' :: unifyBreaks rest
  | c :: rest => c :: unifyBreaks rest
  | [] => []

def dropBlanks (chars : List Char) : List Char :=
  chars.dropWhile isBlank

/-- What follows blanks, line breaks and comments. -/
def dropGaps : (inComment : Bool) → List Char → List Char
  | _, [] => []
  | true, c :: rest =>
    if c == '\n' then dropGaps false rest
    else if isTextChar c then dropGaps true rest
    else c :: rest
  | false, c :: rest =>
    if isBlank c || c == '\n' then dropGaps false rest
    else if c == '#' then dropGaps true rest
    else c :: rest

/-- What follows a character that has to come next. -/
def expect (c : Char) : List Char → Option (List Char)
  | d :: rest => if d = c then some rest else none
  | [] => none

/-- What follows the end of a line, before which a comment may stand. -/
def endLine (chars : List Char) : Option (List Char) :=
  let behindComment :=
    match dropBlanks chars with
    | '#' :: rest => rest.dropWhile isTextChar
    | rest => rest
  match behindComment with
  | [] => some []
  | '\n' :: rest => some rest
  | _ => none

/-- May a character stand in a name without quotes? -/
def isBareChar (c : Char) : Bool :=
  c.isAlphanum || c == '_' || c == '-'

def namePart : Reader String := fun chars =>
  match lineText? chars with
  | some (text, rest) => some (String.ofList text, rest)
  | none =>
    let bare := chars.takeWhile isBareChar
    if bare.isEmpty then none else some (String.ofList bare, chars.drop bare.length)

/-- The parts of a dotted name, `fuel` at most; blanks may stand around them. -/
def nameParts : (fuel : Nat) → Reader (List String)
  | 0, _ => none
  | fuel + 1, chars => do
    let (part, rest) ← namePart (dropBlanks chars)
    match dropBlanks rest with
    | '.' :: rest =>
      let (parts, rest) ← nameParts fuel rest
      return (part :: parts, rest)
    | rest => return ([part], rest)

/-- A dotted name: the path to its last part, and that part. -/
def dottedName : Reader (List String × String) := fun chars => do
  let (parts, rest) ← nameParts levels chars
  let name ← parts.getLast?
  return ((parts.dropLast, name), rest)

/-- A name, what it is given, and what follows. -/
def assignment (value : Reader Value) : Reader (List String × String × Value) :=
  fun chars => do
    let ((path, name), rest) ← dottedName chars
    let (v, rest) ← value (dropBlanks (← expect '=' rest))
    return ((path, name, v), rest)

/-- May a character stand in a word? -/
def isWordChar (c : Char) : Bool :=
  c.isAlphanum || c == '_' || c == '+' || c == '-' || c == '.' || c == ':'

/-- The value of a word; one blank may stand between a day and a time. -/
def word : Reader Value := fun chars => do
  let front := chars.takeWhile isWordChar
  let rest := chars.drop front.length
  match word? front, rest with
  | some (.moment (.day _)), ' ' :: next :: behind =>
    if next.isDigit then
      let time := (next :: behind).takeWhile isWordChar
      return (← word? (front ++ 'T' :: time), (next :: behind).drop time.length)
    else
      return (← word? front, rest)
  | some v, _ => return (v, rest)
  | none, _ => none

/-- The items of a list up to its end, `fuel` at most. -/
def items (value : Reader Value) : (fuel : Nat) → Reader (List Value)
  | 0, _ => none
  | fuel + 1, chars =>
    match dropGaps false chars with
    | ']' :: rest => some ([], rest)
    | chars => do
      let (v, rest) ← value chars
      match dropGaps false rest with
      | ']' :: rest => return ([v], rest)
      | ',' :: rest =>
        let (vs, rest) ← items value fuel rest
        return (v :: vs, rest)
      | _ => none

/-- The assignments between braces up to the end, `fuel` at most. -/
def assignments (value : Reader Value) :
    (fuel : Nat) → Reader (List (List String × String × Value))
  | 0, _ => none
  | fuel + 1, chars => do
    let (first, rest) ← assignment value chars
    match dropBlanks rest with
    | '\x7d' :: rest => return ([first], rest)
    | ',' :: rest =>
      let (others, rest) ← assignments value fuel rest
      return (first :: others, rest)
    | _ => none

/-- A table between braces, behind the opening one. -/
def bracedTable (value : Reader Value) : Reader Value := fun chars =>
  match dropBlanks chars with
  | '\x7d' :: rest => some (.table [], rest)
  | chars => do
    let (given, rest) ← assignments value (chars.length + 1) chars
    return (.table (← tableOfAssignments given), rest)

/-- A value that holds at most the given number of levels. -/
def value : (levels : Nat) → Reader Value
  | 0, chars => scalar chars
  | n + 1, chars =>
    match chars with
    | '[' :: rest =>
      (items (value n) (rest.length + 1) rest).map fun (vs, rest) => (.list vs, rest)
    | '\x7b' :: rest => bracedTable (value n) rest
    | _ => scalar chars
where
  /-- A text or a word. -/
  scalar (chars : List Char) : Option (Value × List Char) :=
    match text? chars with
    | some (text, rest) => some (.text (String.ofList text), rest)
    | none => word chars

/-- One line that is not empty, with what follows it. -/
def line : Reader Line
  | '[' :: '[' :: rest => do
    let ((path, name), rest) ← dottedName rest
    let rest ← endLine (← expect ']' (← expect ']' rest))
    return (.openElement path name, rest)
  | '[' :: rest => do
    let ((path, name), rest) ← dottedName rest
    let rest ← endLine (← expect ']' rest)
    return (.openTable path name, rest)
  | chars => do
    let ((path, name, v), rest) ← assignment (value levels) chars
    return (.assign path name v, ← endLine rest)

/-- The lines of a text, `fuel` at most. -/
def lines : (fuel : Nat) → List Char → Option (List Line)
  | 0, _ => none
  | fuel + 1, chars =>
    match dropGaps false chars with
    | [] => some []
    | chars => do
      let (first, rest) ← line chars
      return first :: (← lines fuel rest)

/-- A byte order mark at the start of a text does not count. -/
def dropMark : List Char → List Char
  | '\ufeff' :: rest => rest
  | chars => chars

/-- The table that a TOML text describes; none if the text is not well-formed. -/
def read (text : String) : Option (Table Value) := do
  let chars := unifyBreaks (dropMark text.toList)
  tableOfLines (← lines (chars.length + 1) chars)

end ApiReview.Toml
