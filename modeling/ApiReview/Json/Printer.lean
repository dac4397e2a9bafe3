import ApiReview.Json.Value
import ApiReview.Number.Layout

/-!
# Printing JSON

Texts are escaped as little as JSON allows: the quote, the backslash and the
characters below U+0020, of which five have a short form.  The compact layout
has no blanks at all; the pretty one puts each item on a line of its own,
indented by two blanks per level, and writes empty arrays and objects on one
line.
-/

namespace ApiReview.Json

/-- The two hexadecimal digits of a number below 256, in lower case. -/
def hexPair (n : Nat) : List Char :=
  [Nat.digitChar (n / 16), Nat.digitChar (n % 16)]

/-- How a character is written inside of a JSON text. -/
def escapeChar (c : Char) : List Char :=
  if c == '"' then ['\\', '"']
  else if c == '\\' then ['\\', '\\']
  else if c == '\n' then ['\\', 'n']
  else if c == '\r' then ['\\', 'r']
  else if c == '\t' then ['\\', 't']
  else if c.toNat == 8 then ['\\', 'b']
  else if c.toNat == 12 then ['\\', 'f']
  else if c.toNat < 32 then ['\\', 'u', '0', '0'] ++ hexPair c.toNat
  else [c]

/-- A text between quotes, escaped. -/
def quote (s : String) : String :=
  String.ofList ('"' :: (s.toList.flatMap escapeChar ++ ['"']))

def Number.text : Number → String
  | .integer n => toString n
  | .real x => x.json

mutual

def Value.compact : Value → String
  | .null => "null"
  | .bool b => if b then "true" else "false"
  | .number n => n.text
  | .string s => quote s
  | .array items => "[" ++ compactItems items ++ "]"
  | .object members => "\x7b" ++ compactMembers members ++ "\x7d"

/-- The items of an array, separated by commas. -/
def compactItems : List Value → String
  | [] => ""
  | [v] => v.compact
  | v :: rest => v.compact ++ "," ++ compactItems rest

/-- The members of an object, separated by commas. -/
def compactMembers : List (String × Value) → String
  | [] => ""
  | [(name, v)] => quote name ++ ":" ++ v.compact
  | (name, v) :: rest => quote name ++ ":" ++ v.compact ++ "," ++ compactMembers rest

end

/-- A line break and the indentation of a level. -/
def lineBreak (level : Nat) : String :=
  String.ofList ('\n' :: List.replicate (2 * level) ' ')

mutual

/-- The pretty layout of a value that stands on the given level. -/
def Value.prettyAt (level : Nat) : Value → String
  | .null => "null"
  | .bool b => if b then "true" else "false"
  | .number n => n.text
  | .string s => quote s
  | .array [] => "[]"
  | .array (v :: rest) =>
    "[" ++ lineBreak (level + 1) ++ v.prettyAt (level + 1) ++ prettyItems (level + 1) rest ++
      lineBreak level ++ "]"
  | .object [] => "\x7b\x7d"
  | .object ((name, v) :: rest) =>
    "\x7b" ++ lineBreak (level + 1) ++ quote name ++ ": " ++ v.prettyAt (level + 1) ++
      prettyMembers (level + 1) rest ++ lineBreak level ++ "\x7d"

/-- The items after the first one, each behind a comma and on its own line. -/
def prettyItems (level : Nat) : List Value → String
  | [] => ""
  | v :: rest => "," ++ lineBreak level ++ v.prettyAt level ++ prettyItems level rest

/-- The members after the first one, each behind a comma and on its own line. -/
def prettyMembers (level : Nat) : List (String × Value) → String
  | [] => ""
  | (name, v) :: rest =>
    "," ++ lineBreak level ++ quote name ++ ": " ++ v.prettyAt level ++
      prettyMembers level rest

end

def Value.pretty (v : Value) : String :=
  v.prettyAt 0

end ApiReview.Json
