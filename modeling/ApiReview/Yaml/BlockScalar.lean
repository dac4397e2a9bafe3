import ApiReview.Yaml.Cursor

/-!
# Block scalars

The lines of a block scalar are indented deeper than the collection around it.
A literal scalar keeps its line breaks.  In a folded one a single break between
two lines becomes a space, unless one of the lines starts with a blank.  The
header says what happens to the breaks at the end: one is kept, all are kept, or
none is.
-/

namespace ApiReview.Yaml

namespace BlockScalar

/-- What becomes of the line breaks at the end. -/
inductive Chomping where
  | clip
  | strip
  | keep
deriving DecidableEq, Repr

/-- The header of a block scalar: how it ends, and by how much it is indented if
the header says so. -/
structure Header where
  chomping : Chomping := .clip
  indent : Option Nat := none

/-- A sign that tells what becomes of the breaks at the end. -/
def chomping? : Option Char → Option Chomping
  | some '+' => some .keep
  | some '-' => some .strip
  | _ => none

/-- The digit of an indent at the cursor, if there is one. -/
def indentDigit (start : Mark) (c : Cursor) : Except Fault (Option Nat × Cursor) :=
  match c.peek? with
  | some d =>
    if d == '0' then c.fault .zeroIndent .blockScalar start
    else if d.isDigit then .ok (some (d.toNat - '0'.toNat), c.next)
    else .ok (none, c)
  | none => .ok (none, c)

/-- The header, of which each of the two parts may come first. -/
def header (start : Mark) (c : Cursor) : Except Fault (Header × Cursor) := do
  match chomping? c.peek? with
  | some chomping =>
    let (indent, c) ← indentDigit start c.next
    return (⟨chomping, indent⟩, c)
  | none =>
    let (indent, c) ← indentDigit start c
    match indent, chomping? c.peek? with
    | some _, some chomping => return (⟨chomping, indent⟩, c.next)
    | _, _ => return (⟨.clip, indent⟩, c)

/-- The line breaks and indents before a line of the scalar. -/
structure Gap where
  breaks : List Char := []
  /-- The greatest column that was reached. -/
  widest : Nat := 0
  /-- The place behind the last line break. -/
  stop : Mark

/-- Pass line breaks and indents, the latter up to the column `indent`, or all
of them when that is still open. -/
def gap (start : Mark) (indent : Option Nat) :
    Nat → Gap → Cursor → Except Fault (Gap × Cursor)
  | 0, g, c => .ok (g, c)
  | fuel + 1, g, c =>
    let open_ (c : Cursor) : Bool := indent.all (c.mark.column < ·)
    let spaces := (c.rest.takeWhile (· == ' ')).length
    let c := c.skip (indent.elim spaces fun n => min spaces (n - c.mark.column))
    let g := { g with widest := max g.widest c.mark.column }
    if open_ c && c.sees '\t' then
      c.fault .tabInIndent .blockScalar start
    else if c.peek?.any isBreak then
      let (text, c) := c.takeBreak
      gap start indent fuel { g with breaks := g.breaks ++ text, stop := c.mark } c
    else
      .ok (g, c)

/-- What a scalar holds while its lines are read. -/
structure Lines where
  text : List Char := []
  /-- The break behind the last line. -/
  lastBreak : List Char := []
  /-- The breaks of the empty lines behind it. -/
  moreBreaks : List Char := []
  /-- Did the last line start with a blank? -/
  blankLed : Bool := false

/-- The text with the breaks between two lines, of which the second one starts
with a blank or not. -/
def Lines.joined (l : Lines) (literal blank : Bool) : List Char :=
  if !literal && l.lastBreak == ['\n'] && !l.blankLed && !blank then
    l.text ++ ((if l.moreBreaks.isEmpty then [' '] else []) ++ l.moreBreaks)
  else
    l.text ++ (l.lastBreak ++ l.moreBreaks)

/-- Read the lines that are indented to `indent`. -/
def lines (literal : Bool) (start : Mark) (indent : Nat) :
    Nat → Lines → Mark → Cursor → Except Fault (Lines × Mark × Cursor)
  | 0, l, stop, c => .ok (l, stop, c)
  | fuel + 1, l, stop, c =>
    if c.mark.column != indent || c.peek?.isNone then
      .ok (l, stop, c)
    else do
      let blank := c.peek?.any isSpaceOrTab
      let (line, c) := c.takeWhile fun char => !isBreak char
      let (lastBreak, c) := c.takeBreak
      let text := l.joined literal blank ++ line
      let (g, c) ← gap start (some indent) (c.size + 1) { stop := c.mark } c
      lines literal start indent fuel ⟨text, lastBreak, g.breaks, blank⟩ g.stop c

/-- A block scalar: its text and the place where it stops. -/
structure Result where
  text : List Char
  stop : Mark

/-- The block scalar at whose sign the cursor stands, inside of a collection that
is indented to `outer` (`-1` outside of all), with the cursor behind it. -/
def read (literal : Bool) (outer : Int) (c : Cursor) :
    Except Fault (Result × Cursor) := do
  let start := c.mark
  let (head, c) ← header start c.next
  let c := (c.skipWhile isSpaceOrTab).skipComment
  if !isBreakOrEnd c.peek? then
    c.fault .commentOrBreakExpected .blockScalar start
  else
    let c := c.skipBreak
    let given := head.indent.map fun n => (max outer 0).toNat + n
    let (g, c) ← gap start given (c.size + 1) { stop := c.mark } c
    let indent := given.getD (max g.widest (max (outer + 1) 1).toNat)
    let (l, stop, c) ←
      lines literal start indent (c.size + 1) { moreBreaks := g.breaks } g.stop c
    let tail :=
      match head.chomping with
      | .strip => []
      | .clip => l.lastBreak
      | .keep => l.lastBreak ++ l.moreBreaks
    return (⟨l.text ++ tail, stop⟩, c)

end BlockScalar

end ApiReview.Yaml
