import ApiReview.Yaml.Blanks

/-!
# Quoted scalars

Between single quotes only the quote itself is special: it is written twice.
Between double quotes a backslash starts an escape, or joins two lines when a
line break follows.
-/

namespace ApiReview.Yaml

namespace QuotedScalar

/-- What follows the backslash of an escape. -/
inductive Escape where
  /-- The letter stands for a character. -/
  | char (c : Char)
  /-- That many hexadecimal digits give the code point. -/
  | code (digits : Nat)
  | unknown
deriving Repr

/-- What the letter behind a backslash means. -/
def escapeOf : Char → Escape
  | '0' => .char '\x00'
  | 'a' => .char '\x07'
  | 'b' => .char '\x08'
  | 't' => .char '\t'
  | '\t' => .char '\t'
  | 'n' => .char '\n'
  | 'v' => .char '\x0b'
  | 'f' => .char '\x0c'
  | 'r' => .char '\r'
  | 'e' => .char '\x1b'
  | ' ' => .char ' '
  | '"' => .char '"'
  | '/' => .char '/'
  | '\\' => .char '\\'
  | 'N' => .char '\u0085'
  | '_' => .char '\u00a0'
  | 'L' => .char '\u2028'
  | 'P' => .char '\u2029'
  | 'x' => .code 2
  | 'u' => .code 4
  | 'U' => .code 8
  | _ => .unknown

/-- The value of a hexadecimal digit. -/
def hexDigit? (c : Char) : Option Nat :=
  if c.isDigit then some (c.toNat - '0'.toNat)
  else if 'a' ≤ c && c ≤ 'f' then some (c.toNat - 'a'.toNat + 10)
  else if 'A' ≤ c && c ≤ 'F' then some (c.toNat - 'A'.toNat + 10)
  else none

/-- The value of hexadecimal digits, if all characters are. -/
def hexValue? : List Char → Option Nat :=
  List.foldl (fun value c => do some (16 * (← value) + (← hexDigit? c))) (some 0)

/-- The character of an escape at whose backslash the cursor stands, in a scalar
that began at `start`. -/
def escape (start : Mark) (c : Cursor) : Except Fault (Char × Cursor) :=
  match (c.peekAt? 1).elim .unknown escapeOf with
  | .unknown => c.fault .unknownEscape .escape start
  | .char char => .ok (char, c.skip 2)
  | .code count =>
    let c := c.skip 2
    let digits := c.rest.take count
    match hexValue? digits with
    | none => c.fault .hexDigits .escape start
    | some value =>
      if digits.length < count then c.fault .hexDigits .escape start
      else if (0xD800 ≤ value && value ≤ 0xDFFF) || 0x10FFFF < value then
        c.fault .invalidEscapeCode .escape start
      else
        .ok (Char.ofNat value, c.skip count)

/-- Read characters up to a blank, a line break or the closing quote.  The flag
tells whether an escaped line break was passed. -/
def word (single : Bool) (start : Mark) :
    Nat → List Char → Cursor → Except Fault (List Char × Bool × Cursor)
  | 0, read, c => .ok (read.reverse, false, c)
  | fuel + 1, read, c =>
    match c.peek? with
    | none => .ok (read.reverse, false, c)
    | some char =>
      if isSpaceOrTab char || isBreak char then .ok (read.reverse, false, c)
      else if single && char == '\'' && c.peekAt? 1 == some '\'' then
        word single start fuel ('\'' :: read) (c.skip 2)
      else if char == (if single then '\'' else '"') then .ok (read.reverse, false, c)
      else if !single && char == '\\' then
        if (c.peekAt? 1).any isBreak then
          .ok (read.reverse, true, c.next.skipBreak)
        else do
          let (escaped, c) ← escape start c
          word single start fuel (escaped :: read) c
      else
        word single start fuel (char :: read) c.next

/-- Read words up to the closing quote; `text` is what was read before. -/
def words (single : Bool) (start : Mark) :
    Nat → List Char → Cursor → Except Fault (List Char × Cursor)
  | 0, text, c => .ok (text, c)
  | fuel + 1, text, c => do
    if c.atDocumentBound then
      c.fault .documentIndicator .quotedScalar start
    else if c.peek?.isNone then
      c.fault .endOfText .quotedScalar start
    else
      let (letters, joined, c) ← word single start (c.size + 1) [] c
      let text := text ++ letters
      if c.sees (if single then '\'' else '"') then
        .ok (text, c.next)
      else
        let (blanks, c) ← Blanks.gather 0 start (c.size + 1) { broken := joined } c
        words single start fuel (text ++ blanks.folded) c

/-- The quoted scalar at whose opening quote the cursor stands, with the cursor
behind its closing quote. -/
def read (single : Bool) (c : Cursor) : Except Fault (List Char × Cursor) :=
  words single c.mark (c.size + 1) [] c.next

end QuotedScalar

end ApiReview.Yaml
