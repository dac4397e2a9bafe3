import ApiReview.Yaml.Blanks

/-!
# Plain scalars

A plain scalar ends before a comment, before a colon that is followed by a blank,
before a line that is indented too little, before a mark that ends the document,
and inside of a flow collection also before the signs of the collection.
-/

namespace ApiReview.Yaml

namespace PlainScalar

def isFlowSign (c : Char) : Bool :=
  c == ',' || c == '[' || c == ']' || c == '{' || c == '}'

/-- Does a word end before these characters? -/
def endsBefore (inFlow : Bool) : List Char → Bool
  | [] => true
  | c :: rest =>
    isSpaceOrTab c || isBreak c || (c == ':' && isGapOrEnd rest.head?) ||
      (inFlow && isFlowSign c)

/-- Do these characters begin with a colon that a flow collection allows neither
in a word nor behind it? -/
def badColon (inFlow : Bool) : List Char → Bool
  | ':' :: c :: _ => inFlow && (isFlowSign c || c == '?')
  | _ => false

/-- The word at the cursor, which may be empty. -/
def word (inFlow : Bool) (start : Mark) :
    List Char → List Char → Cursor → Except Fault (List Char × Cursor)
  | [], read, c => .ok (read.reverse, c)
  | char :: rest, read, c =>
    if badColon inFlow (char :: rest) then c.fault .unexpectedColon .plainScalar start
    else if endsBefore inFlow (char :: rest) then .ok (read.reverse, c)
    else word inFlow start rest (char :: read) c.next

/-- A plain scalar: its text, the place where it stops, and whether line breaks
were passed behind its last word. -/
structure Result where
  text : List Char
  stop : Mark
  brokenAfter : Bool

/-- The words of a plain scalar whose text so far is `text`; `blanks` stand
before the next word.  Lines that go on have to be indented to `indent`. -/
def words (inFlow : Bool) (indent : Nat) (start : Mark) :
    Nat → Result → Blanks → Cursor → Except Fault (Result × Cursor)
  | 0, done, _, c => .ok (done, c)
  | fuel + 1, done, blanks, c => do
    let finished : Except Fault (Result × Cursor) :=
      .ok ({ done with brokenAfter := blanks.broken }, c)
    if c.atDocumentBound || c.sees '#' then
      finished
    else
      let (letters, c) ← word inFlow start c.rest [] c
      if letters.isEmpty then
        finished
      else
        let done : Result := ⟨done.text ++ (blanks.folded ++ letters), c.mark, false⟩
        let (blanks, next) ← Blanks.gather indent start (c.size + 1) {} c
        if next.mark.index == c.mark.index then
          .ok (done, c)
        else if !inFlow && next.mark.column < indent then
          .ok ({ done with brokenAfter := blanks.broken }, next)
        else
          words inFlow indent start fuel done blanks next

/-- The plain scalar at the cursor, with the cursor behind it. -/
def read (inFlow : Bool) (indent : Nat) (c : Cursor) :
    Except Fault (Result × Cursor) :=
  words inFlow indent c.mark (c.size + 1) ⟨[], c.mark, false⟩ {} c

end PlainScalar

end ApiReview.Yaml
