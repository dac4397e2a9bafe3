import ApiReview.Number.FromText
import ApiReview.Pattern.Reader

/-!
# Escapes in patterns

Behind a backslash a sign stands for itself, and a letter for a character, a
class, an assertion or a code point.  Digits would refer back to a group, which
these patterns cannot do.
-/

namespace ApiReview.Pattern

open Reader

namespace Escape

def isHexDigit (c : Char) : Bool :=
  (digitValue? 16 c).isSome

/-- The character with the code point that hexadecimal digits give. -/
def charOfHex (digits : List Char) : Reader Char :=
  match natOfDigits? 16 digits with
  | none => throw .hexEmpty
  | some n => if n.isValidChar then return Char.ofNat n else throw .hexNoScalar

def hexDigits : Nat → Reader (List Char)
  | 0 => return []
  | count + 1 => do
    match ← peek with
    | none => throw .escapeCutShort
    | some c =>
      if isHexDigit c then
        let _ ← advance
        return c :: (← hexDigits count)
      else
        throw .hexDigit

/-- Characters up to a closing brace, behind the opening one; digits have to be
hexadecimal if `hex` says so. -/
def braced (hex : Bool) : Nat → Reader (List Char)
  | 0 => throw .escapeCutShort
  | fuel + 1 => do
    match ← peek with
    | none => throw .escapeCutShort
    | some '}' => return []
    | some c =>
      if hex && !isHexDigit c then
        throw .hexDigit
      else
        let _ ← advance
        return c :: (← braced hex fuel)

/-- A literal by its code point, behind the letter of the escape. -/
def hex (count : Nat) : Reader Literal := do
  if !(← advance) then
    throw .escapeCutShort
  else if (← peek) == some '\x7b' then
    let _ ← advance
    let digits ← braced true ((← get).rest.length + 1)
    let _ ← advance
    return { char := ← charOfHex digits }
  else
    return { char := ← charOfHex (← hexDigits count), asByte := count == 2 }

/-- The parts of a text around the first occurrence of another. -/
def splitAt? (separator : List Char) : List Char → Option (List Char × List Char)
  | [] => none
  | c :: rest =>
    if separator.isPrefixOf (c :: rest) then
      some ([], (c :: rest).drop separator.length)
    else
      (splitAt? separator rest).map fun (before, after) => (c :: before, after)

/-- The name of a property, with a value if it holds a sign for that. -/
def propertyName (text : List Char) : PropertyName :=
  match [['!', '='], [':'], ['=']].findSome? fun sign => splitAt? sign text with
  | some (name, value) => .valued (.ofList name) (.ofList value)
  | none => .single (.ofList text)

/-- A property, behind the letter of the escape. -/
def property : Reader PropertyName := do
  if !(← advance) then
    throw .escapeCutShort
  else
    match ← peek with
    | some '\x7b' =>
      let _ ← advance
      let text ← braced false ((← get).rest.length + 1)
      skip
      return propertyName text
    | some '\\' => throw .propertyCutOff
    | some c =>
      skip
      return .single (String.singleton c)
    | none => throw .escapeCutShort

/-- A letter of the name of a word bound. -/
def isBoundLetter (c : Char) : Bool :=
  c.isAlpha || c == '-'

/-- The letters of the name of a word bound. -/
def boundName : Nat → Reader (List Char)
  | 0 => return []
  | fuel + 1 => do
    match ← peek with
    | some c =>
      if isBoundLetter c then
        let _ ← advance
        return c :: (← boundName fuel)
      else
        return []
    | none => return []

/-- What may follow the sign of a word bound: braces that name its kind, unless
they hold a count. -/
def wordBound : Reader Tree := do
  let start ← get
  if (← peek) != some '\x7b' then
    return .bound
  else if !(← advance) then
    throw .wordBoundCutShort
  else if !(← peek).any isBoundLetter then
    set start
    return .bound
  else
    let name ← boundName ((← get).rest.length + 1)
    if (← peek) != some '\x7d' then
      throw .wordBoundUnclosed
    else
      skip
      if ["start", "end", "start-half", "end-half"].contains (String.ofList name) then
        return .bound
      else
        throw .wordBoundUnknown

/-- A character that has a meaning of its own somewhere in a pattern. -/
def isSign (c : Char) : Bool :=
  "\\.+*?()|[]\x7b\x7d^$#&-~".toList.contains c

/-- A character that stands for itself behind a backslash. -/
def isPlain (c : Char) : Bool :=
  isSign c || (c.toNat < 128 && !c.isAlphanum && c != '<' && c != '>')

/-- The character that a letter stands for behind a backslash. -/
def named? : Char → Option Char
  | 'a' => some '\x07'
  | 'f' => some '\x0c'
  | 't' => some '\t'
  | 'n' => some '\n'
  | 'r' => some '\r'
  | 'v' => some '\x0b'
  | _ => none

/-- The class of a letter, and whether it is the opposite. -/
def common? : Char → Option (CommonClass × Bool)
  | 'd' => some (.digit, false)
  | 'D' => some (.digit, true)
  | 's' => some (.space, false)
  | 'S' => some (.space, true)
  | 'w' => some (.word, false)
  | 'W' => some (.word, true)
  | _ => none

/-- An escape, at its backslash. -/
def read : Reader Tree := do
  skip
  match ← peek with
  | none => throw .escapeCutShort
  | some c =>
    if c.isDigit then throw .backreference
    else if c == 'x' then return .literal (← hex 2)
    else if c == 'u' then return .literal (← hex 4)
    else if c == 'U' then return .literal (← hex 8)
    else if c == 'p' || c == 'P' then return .property (← property) (c == 'P')
    else
      skip
      match common? c, named? c with
      | some (kind, negated), _ => return .common kind negated
      | none, some char => return .literal { char }
      | none, none =>
        if isPlain c then return .literal { char := c }
        else if c == 'b' then wordBound
        else if ['A', 'z', 'B', '<', '>'].contains c then return .bound
        else throw .escapeUnknown

end Escape

end ApiReview.Pattern
