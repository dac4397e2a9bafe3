import ApiReview.Yaml.Cursor

/-!
# Blanks inside of scalars

Within one line, the blanks between two words of a scalar belong to it.  When
the scalar goes on in another line, the blanks around the line break do not: a
single line break stands for a space, and of several ones the first is dropped.
-/

namespace ApiReview.Yaml

/-- The blanks between two words of a scalar. -/
structure Blanks where
  /-- The spaces and tabs, when no line ends. -/
  spaces : List Char := []
  /-- Has a line ended? -/
  broken : Bool := false
  firstBreak : List Char := []
  moreBreaks : List Char := []

namespace Blanks

/-- What the blanks stand for. -/
def folded (b : Blanks) : List Char :=
  if b.broken then
    if b.firstBreak == ['\n'] then
      if b.moreBreaks.isEmpty then [' '] else b.moreBreaks
    else
      b.firstBreak ++ b.moreBreaks
  else
    b.spaces

/-- Gather the blanks that follow.  In a scalar whose lines have to be indented,
`tabsFrom` is the column before which no tab may stand in a later line; the
scalar began at `start`. -/
def gather (tabsFrom : Nat) (start : Mark) :
    Nat → Blanks → Cursor → Except Fault (Blanks × Cursor)
  | 0, b, c => .ok (b, c)
  | fuel + 1, b, c =>
    match c.peek? with
    | none => .ok (b, c)
    | some char =>
      if isSpaceOrTab char then
        if b.broken then
          if char == '\t' && c.mark.column < tabsFrom then
            c.fault .tabBreaksIndent .plainScalar start
          else
            gather tabsFrom start fuel b c.next
        else
          gather tabsFrom start fuel { b with spaces := b.spaces ++ [char] } c.next
      else if isBreak char then
        let (text, c) := c.takeBreak
        if b.broken then
          gather tabsFrom start fuel { b with moreBreaks := b.moreBreaks ++ text } c
        else
          gather tabsFrom start fuel
            { b with broken := true, firstBreak := text } c
      else
        .ok (b, c)

end Blanks

end ApiReview.Yaml
