import ApiReview.Yaml.Fault

/-!
# Reading YAML texts character by character

A cursor is what is left of a text together with its mark.  `size` is the number
of characters of the whole text; every loop over the text ends within that many
rounds, as each round moves over a character.
-/

namespace ApiReview.Yaml

/-- The kinds of characters that the grammar tells apart. -/
def isSpaceOrTab (c : Char) : Bool :=
  c == ' ' || c == '\t'

def isBreak (c : Char) : Bool :=
  c == '\r' || c == '\n' || c == '\u0085' || c == '\u2028' || c == '\u2029'

/-- A character of names of anchors, handles and directives. -/
def isNameChar (c : Char) : Bool :=
  c.isAlphanum || c == '_' || c == '-'

/-- A character that may stand in a text at all. -/
def isReadable (c : Char) : Bool :=
  let n := c.toNat
  n == 0x09 || n == 0x0A || n == 0x0D || (0x20 ≤ n && n ≤ 0x7E) || n == 0x85 ||
    (0xA0 ≤ n && n ≤ 0xD7FF) || (0xE000 ≤ n && n ≤ 0xFFFD) || 0x10000 ≤ n

/-- Is the character a line break or missing? -/
def isBreakOrEnd (c : Option Char) : Bool :=
  c.all isBreak

/-- Is the character a space, a tab, a line break or missing? -/
def isGapOrEnd (c : Option Char) : Bool :=
  c.all fun c => isSpaceOrTab c || isBreak c

/-- The rest of a text and its mark. -/
structure Cursor where
  rest : List Char
  mark : Mark
  size : Nat

namespace Cursor

/-- The cursor at the start of a text. -/
def ofString (s : String) : Cursor :=
  let rest := s.toList
  ⟨rest, {}, rest.length⟩

def peek? (c : Cursor) : Option Char :=
  c.rest.head?

/-- The character that many places further on. -/
def peekAt? (c : Cursor) (n : Nat) : Option Char :=
  c.rest[n]?

/-- Is the next character the given one? -/
def sees (c : Cursor) (char : Char) : Bool :=
  c.peek? == some char

/-- The cursor one character further on. -/
def next (c : Cursor) : Cursor :=
  { c with
    rest := c.rest.tail
    mark := { c.mark with index := c.mark.index + 1, column := c.mark.column + 1 } }

/-- The cursor some characters further on. -/
def skip (c : Cursor) (n : Nat) : Cursor :=
  { c with
    rest := c.rest.drop n
    mark := { c.mark with index := c.mark.index + n, column := c.mark.column + n } }

/-- What a line break stands for, and the cursor behind it.  A carriage return
and a line feed are one break, and all breaks but the two separators of Unicode
stand for a line feed. -/
def takeBreak (c : Cursor) : List Char × Cursor :=
  let newLine (rest : List Char) (length : Nat) : Cursor :=
    { c with rest := rest, mark := ⟨c.mark.index + length, c.mark.line + 1, 0⟩ }
  match c.rest with
  | '\r' :: '\n' :: rest => (['\n'], newLine rest 2)
  | char :: rest =>
    if char == '\u2028' || char == '\u2029' then ([char], newLine rest 1)
    else if isBreak char then (['\n'], newLine rest 1)
    else ([], c)
  | [] => ([], c)

/-- The cursor behind a line break, if one follows. -/
def skipBreak (c : Cursor) : Cursor :=
  c.takeBreak.2

/-- The characters that follow as long as they satisfy `p`, and the cursor
behind them; `p` holds of no line break. -/
def takeWhile (c : Cursor) (p : Char → Bool) : List Char × Cursor :=
  let taken := c.rest.takeWhile p
  (taken, c.skip taken.length)

/-- The cursor behind the characters that satisfy `p`, none of them a line
break. -/
def skipWhile (c : Cursor) (p : Char → Bool) : Cursor :=
  (c.takeWhile p).2

/-- The cursor behind the comment that follows, if one does. -/
def skipComment (c : Cursor) : Cursor :=
  if c.sees '#' then c.skipWhile fun char => !isBreak char else c

/-- Does a line begin here with the mark that starts or ends a document? -/
def atDocumentMark (c : Cursor) (sign : Char) : Bool :=
  c.mark.column == 0 && c.peekAt? 0 == some sign && c.peekAt? 1 == some sign &&
    c.peekAt? 2 == some sign && isGapOrEnd (c.peekAt? 3)

/-- Does a line begin here with a mark of either kind? -/
def atDocumentBound (c : Cursor) : Bool :=
  c.atDocumentMark '-' || c.atDocumentMark '.'

/-- A fault here, during an activity that began at `start`. -/
def fault {α : Type} (c : Cursor) (problem : Problem) (activity : Activity)
    (start : Mark) : Except Fault α :=
  .error { problem, mark := c.mark, during := some (activity, start) }

end Cursor

/-- The first character that may not stand in a text, as a fault. -/
def unreadable? (s : String) : Option Fault :=
  go s.toList 0
where
  /-- Look at the rest of the text, which begins at a byte. -/
  go : List Char → Nat → Option Fault
    | [], _ => none
    | c :: rest, offset =>
      if isReadable c then go rest (offset + c.utf8Size)
      else some { problem := .controlCharacter, mark := {}, offset }

end ApiReview.Yaml
