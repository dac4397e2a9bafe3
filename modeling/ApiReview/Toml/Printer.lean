/-!
# Writing TOML texts

What is written are sections of texts, truth values and lists of texts.  A list
of two or more texts has each of them on a line of its own.  A text is written in
the first of these forms that suits it: between quotes without an escape other
than that of a tab, between apostrophes, between three quotes, between three
apostrophes; and when all of these would need escapes, between quotes with
escapes, of which there are three if it has line breaks.
-/

namespace ApiReview.Toml

/-- What a name is given in a text that is written. -/
inductive Entry where
  | text (s : String)
  | flag (b : Bool)
  | texts (items : List String)
deriving DecidableEq, Repr

/-- A named part of a text, with its entries. -/
structure Section where
  name : String
  entries : List (String × Entry)

/-- How a text is quoted. -/
inductive Quotes where
  | basic
  | literal
  | multiBasic
  | multiLiteral
deriving DecidableEq, Repr

/-- The length of the longest run of a character; `run` of them stand before the
text. -/
def longestRun (c : Char) (run : Nat) : List Char → Nat
  | [] => run
  | d :: rest =>
    if d = c then longestRun c (run + 1) rest else max run (longestRun c 0 rest)

/-- A control character other than the tab and the line break. -/
def isControl (c : Char) : Bool :=
  (c < ' ' && c != '\t' && c != '\n') || c == '\x7f'

def Quotes.suiting (chars : List Char) : Quotes :=
  let controls := chars.any isControl
  let breaks := chars.contains '\n'
  let escapes := controls || chars.contains '\\'
  let quotes := longestRun '"' 0 chars
  let apostrophes := longestRun '\'' 0 chars
  if !escapes && quotes = 0 && !breaks then .basic
  else if !controls && apostrophes = 0 && !breaks then .literal
  else if !escapes && quotes ≤ 2 then .multiBasic
  else if !controls && apostrophes ≤ 2 then .multiLiteral
  else if breaks then .multiBasic
  else .basic

/-- Four hexadecimal digits of a small number, in upper case. -/
def fourDigits (n : Nat) : List Char :=
  let digits := (Nat.toDigits 16 n).map Char.toUpper
  List.replicate (4 - digits.length) '0' ++ digits

/-- How a character other than a quote is written between quotes. -/
def escaped (multi : Bool) (c : Char) : List Char :=
  if c == '\x08' then ['\\', 'b']
  else if c == '\t' then ['\\', 't']
  else if c == '\n' then if multi then ['\n'] else ['\\', 'n']
  else if c == '\x0c' then ['\\', 'f']
  else if c == '\r' then ['\\', 'r']
  else if c == '\\' then ['\\', '\\']
  else if isControl c then ['\\', 'u'] ++ fourDigits c.toNat
  else [c]

/-- How a text is written between quotes.  Up to `allowed` quotes in a row stay
as they are, and `run` of them stand before the text. -/
def escapedFrom (multi : Bool) (allowed run : Nat) : List Char → List Char
  | [] => []
  | c :: rest =>
    if c = '"' then
      if run < allowed then '"' :: escapedFrom multi allowed (run + 1) rest
      else '\\' :: '"' :: escapedFrom multi allowed 0 rest
    else
      escaped multi c ++ escapedFrom multi allowed 0 rest

/-- A text between quotes of a kind.  A text of several lines starts on a line
of its own. -/
def quotedAs (quotes : Quotes) (chars : List Char) : List Char :=
  let start := if chars.contains '\n' then ['\n'] else []
  match quotes with
  | .basic => '"' :: (escapedFrom false 0 0 chars ++ ['"'])
  | .literal => '\'' :: (chars ++ ['\''])
  | .multiBasic => ['"', '"', '"'] ++ start ++ escapedFrom true 2 0 chars ++ ['"', '"', '"']
  | .multiLiteral => ['\'', '\'', '\''] ++ start ++ chars ++ ['\'', '\'', '\'']

/-- A text as a value. -/
def writtenText (s : String) : String :=
  String.ofList (quotedAs (.suiting s.toList) s.toList)

/-- The items of a list, each on an indented line. -/
def writtenItems : List String → String
  | [] => ""
  | s :: rest => "    " ++ writtenText s ++ ",\n" ++ writtenItems rest

/-- The value of an entry. -/
def Entry.written : Entry → String
  | .text s => writtenText s
  | .flag b => if b then "true" else "false"
  | .texts [] => "[]"
  | .texts [s] => "[" ++ writtenText s ++ "]"
  | .texts items => "[\n" ++ writtenItems items ++ "]"

/-- The lines of a section. -/
def Section.written (section_ : Section) : String :=
  "[" ++ section_.name ++ "]\n" ++
    String.join (section_.entries.map fun (name, entry) =>
      name ++ " = " ++ entry.written ++ "\n")

/-- A text of some sections, with an empty line between them. -/
def written (sections : List Section) : String :=
  "\n".intercalate (sections.map Section.written)

end ApiReview.Toml
