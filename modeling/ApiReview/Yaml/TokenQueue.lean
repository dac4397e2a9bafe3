import ApiReview.Yaml.BlockScalar
import ApiReview.Yaml.Directive
import ApiReview.Yaml.PlainScalar

/-!
# Cutting a text into tokens

Tokens are read only as far as they are asked for, because which of two faults
is reported depends on it.  A key without a question mark shows as a key only by
the colon behind it, so tokens wait in a queue while a key is still possible in
front of them; the marks of the key and of its mapping are then put in.  Such a
key stands in one line and has at most 1024 characters.

In block context the indents of the collections around the cursor form a stack,
and `-1` is the indent outside of all.
-/

namespace ApiReview.Yaml

/-- A place at which a key without a question mark may have started. -/
structure PossibleKey where
  /-- The key has to be one, as it stands at the indent of its mapping. -/
  required : Bool
  /-- The number of tokens before the key. -/
  number : Nat
  mark : Mark

/-- The tokens read but not taken yet, and what it takes to read on. -/
structure TokenQueue where
  cursor : Cursor
  /-- The tokens that wait, the first one first. -/
  waiting : List Token := []
  /-- The number of tokens taken. -/
  taken : Nat := 0
  indent : Int := -1
  /-- The indents around the current one, the nearest first. -/
  outerIndents : List Int := []
  /-- The key that may have started at the current level. -/
  possibleKey : Option PossibleKey := none
  /-- Those of the flow collections around it, the nearest first, and then that
  of the block. -/
  outerKeys : List (Option PossibleKey) := []
  /-- May a key start here? -/
  keyAllowed : Bool := true

namespace TokenQueue

/-- The queue that holds only the start of the stream. -/
def ofString (s : String) : TokenQueue where
  cursor := .ofString s
  waiting := [⟨.streamStart, {}, {}⟩]

/-- The place that was reached. -/
def mark (q : TokenQueue) : Mark :=
  q.cursor.mark

/-- Is the cursor inside of a flow collection? -/
def inFlow (q : TokenQueue) : Bool :=
  !q.outerKeys.isEmpty

/-- A fault at the place that was reached. -/
def fault {α : Type} (q : TokenQueue) (problem : Problem) : Except Fault α :=
  .error { problem, mark := q.mark }

/-- The fault that a key which has to be one is none. -/
def keyFault {α : Type} (q : TokenQueue) (key : PossibleKey) : Except Fault α :=
  q.cursor.fault .keyWithoutColon .simpleKey key.mark

/-- Put a token at the end. -/
def push (q : TokenQueue) (token : Token) : TokenQueue :=
  { q with waiting := q.waiting ++ [token] }

/-- Put a token before the one with a number. -/
def insertAt (q : TokenQueue) (number : Nat) (token : Token) : TokenQueue :=
  let place := number - q.taken
  { q with waiting := q.waiting.take place ++ token :: q.waiting.drop place }

/-- Can a key that started there no longer end here? -/
def isStale (q : TokenQueue) (key : PossibleKey) : Bool :=
  key.mark.line < q.mark.line || key.mark.index + 1024 < q.mark.index

/-- Forget a possible key that is stale, unless it has to be one. -/
def freshKey (q : TokenQueue) : Option PossibleKey → Except Fault (Option PossibleKey)
  | none => .ok none
  | some key =>
    if q.isStale key then
      if key.required then q.keyFault key else .ok none
    else
      .ok (some key)

/-- Forget the possible keys that are stale, at all levels. -/
def dropStaleKeys (q : TokenQueue) : Except Fault TokenQueue := do
  let outer ← q.outerKeys.reverse.mapM q.freshKey
  let key ← q.freshKey q.possibleKey
  .ok { q with possibleKey := key, outerKeys := outer.reverse }

/-- Forget the possible key of this level. -/
def dropKey (q : TokenQueue) : Except Fault TokenQueue :=
  match q.possibleKey with
  | some key => if key.required then q.keyFault key else .ok { q with possibleKey := none }
  | none => .ok q

/-- Remember that a key may start here, if it may. -/
def saveKey (q : TokenQueue) : Except Fault TokenQueue :=
  if q.keyAllowed then do
    let required := !q.inFlow && q.indent == q.mark.column
    let q ← q.dropKey
    .ok { q with possibleKey := some ⟨required, q.taken + q.waiting.length, q.mark⟩ }
  else
    .ok q

/-- Open a block collection at a column, unless one is open there.  Its mark goes
to the end, or before the token with the given number. -/
def indentTo (q : TokenQueue) (column : Nat) (number : Option Nat) (kind : TokenKind)
    (mark : Mark) : TokenQueue :=
  if !q.inFlow && q.indent < column then
    let q := { q with outerIndents := q.indent :: q.outerIndents, indent := column }
    let token : Token := ⟨kind, mark, mark⟩
    match number with
    | none => q.push token
    | some n => q.insertAt n token
  else
    q

/-- Close the block collections whose indent is greater than a column. -/
def unindentTo (q : TokenQueue) (column : Int) : TokenQueue :=
  if q.inFlow then q else go q q.outerIndents
where
  /-- Close one collection after the other. -/
  go (q : TokenQueue) : List Int → TokenQueue
    | [] => q
    | outer :: rest =>
      if column < q.indent then
        go { q.push ⟨.blockEnd, q.mark, q.mark⟩ with
          indent := outer, outerIndents := rest } rest
      else
        q

/-- Pass blanks, comments and line breaks.  Behind a line break a key may start
in block context; a tab is no blank where a key may start. -/
def skipGaps : Nat → TokenQueue → TokenQueue
  | 0, q => q
  | fuel + 1, q =>
    let c := q.cursor
    let c := if c.mark.column == 0 && c.sees '\ufeff' then c.next else c
    let tabs := q.inFlow || !q.keyAllowed
    let c := (c.skipWhile fun char => char == ' ' || (tabs && char == '\t')).skipComment
    if c.peek?.any isBreak then
      skipGaps fuel
        { q with cursor := c.skipBreak, keyAllowed := q.keyAllowed || !q.inFlow }
    else
      { q with cursor := c }

/-- Take a sign of some characters as a token. -/
def takeSign (q : TokenQueue) (length : Nat) (kind : TokenKind) : TokenQueue :=
  let next := q.cursor.skip length
  { q with cursor := next }.push ⟨kind, q.mark, next.mark⟩

def takeRead (q : TokenQueue) (kind : TokenKind) (stop : Mark) (next : Cursor) :
    TokenQueue :=
  { q with cursor := next }.push ⟨kind, q.mark, stop⟩

/-- What comes before all marks that stand for themselves: all block collections
are closed, and no key is possible. -/
def leaveBlocks (q : TokenQueue) : Except Fault TokenQueue := do
  let q ← (q.unindentTo (-1)).dropKey
  .ok { q with keyAllowed := false }

/-- The end of the text, which also ends the last line. -/
def takeEnd (q : TokenQueue) : Except Fault TokenQueue := do
  let mark := q.mark
  let mark := if mark.column == 0 then mark else ⟨mark.index, mark.line + 1, 0⟩
  let q ← { q with cursor := { q.cursor with mark } }.leaveBlocks
  .ok (q.push ⟨.streamEnd, mark, mark⟩)

def takeDirective (q : TokenQueue) : Except Fault TokenQueue := do
  let q ← q.leaveBlocks
  let (kind, stop, next) ← Directive.read q.cursor
  .ok (q.takeRead kind stop next)

/-- A mark that starts or ends a document. -/
def takeDocumentMark (q : TokenQueue) (kind : TokenKind) : Except Fault TokenQueue := do
  .ok ((← q.leaveBlocks).takeSign 3 kind)

/-- The start of a flow collection, which may be a key itself. -/
def openFlow (q : TokenQueue) (kind : TokenKind) : Except Fault TokenQueue := do
  let q ← q.saveKey
  .ok ({ q with
    possibleKey := none, outerKeys := q.possibleKey :: q.outerKeys,
    keyAllowed := true }.takeSign 1 kind)

/-- The end of a flow collection. -/
def closeFlow (q : TokenQueue) (kind : TokenKind) : Except Fault TokenQueue := do
  let q ← q.dropKey
  let q :=
    match q.outerKeys with
    | [] => q
    | key :: rest => { q with possibleKey := key, outerKeys := rest }
  .ok ({ q with keyAllowed := false }.takeSign 1 kind)

/-- The comma between the entries of a flow collection. -/
def takeComma (q : TokenQueue) : Except Fault TokenQueue := do
  let q ← q.dropKey
  .ok ({ q with keyAllowed := true }.takeSign 1 .flowEntry)

/-- The dash before an entry of a block sequence.  In a flow collection it is
taken as well, and found wrong when the tokens are put together. -/
def takeDash (q : TokenQueue) : Except Fault TokenQueue := do
  if !q.inFlow && !q.keyAllowed then
    q.fault .entryNotAllowed
  else
    let q ← (q.indentTo q.mark.column none .blockSequenceStart q.mark).dropKey
    .ok ({ q with keyAllowed := true }.takeSign 1 .blockEntry)

/-- The question mark before a key. -/
def takeQuestion (q : TokenQueue) : Except Fault TokenQueue := do
  if !q.inFlow && !q.keyAllowed then
    q.fault .keyNotAllowed
  else
    let q ← (q.indentTo q.mark.column none .blockMappingStart q.mark).dropKey
    .ok ({ q with keyAllowed := !q.inFlow }.takeSign 1 .key)

/-- The colon before a value, which may show that a key stands before it. -/
def takeColon (q : TokenQueue) : Except Fault TokenQueue :=
  match q.possibleKey with
  | some key =>
    let q := q.insertAt key.number ⟨.key, key.mark, key.mark⟩
    let q := q.indentTo key.mark.column (some key.number) .blockMappingStart key.mark
    .ok ({ q with possibleKey := none, keyAllowed := false }.takeSign 1 .value)
  | none =>
    if !q.inFlow && !q.keyAllowed then
      q.fault .valueNotAllowed
    else
      let q := q.indentTo q.mark.column none .blockMappingStart q.mark
      .ok ({ q with keyAllowed := !q.inFlow }.takeSign 1 .value)

/-- An anchor, an alias or a tag, with which a key may start. -/
def takeProperty (q : TokenQueue) (read : Cursor → Except Fault (TokenKind × Cursor)) :
    Except Fault TokenQueue := do
  let q ← q.saveKey
  let (kind, next) ← read q.cursor
  .ok ({ q with keyAllowed := false }.takeRead kind next.mark next)

/-- A block scalar, behind which a key may start. -/
def takeBlockScalar (q : TokenQueue) (literal : Bool) : Except Fault TokenQueue := do
  let q ← q.dropKey
  let (scalar, next) ← BlockScalar.read literal q.indent q.cursor
  let style := if literal then .literal else .folded
  .ok ({ q with keyAllowed := true }.takeRead (.scalar (.ofList scalar.text) style)
    scalar.stop next)

/-- A quoted scalar, with which a key may start. -/
def takeQuoted (q : TokenQueue) (single : Bool) : Except Fault TokenQueue := do
  let q ← q.saveKey
  let (text, next) ← QuotedScalar.read single q.cursor
  let style := if single then .singleQuoted else .doubleQuoted
  .ok ({ q with keyAllowed := false }.takeRead (.scalar (.ofList text) style) next.mark next)

/-- A plain scalar, with which a key may start; if it ended with its line, a key
may also start behind it. -/
def takePlain (q : TokenQueue) : Except Fault TokenQueue := do
  let q ← q.saveKey
  let (scalar, next) ← PlainScalar.read q.inFlow (q.indent + 1).toNat q.cursor
  .ok ({ q with keyAllowed := scalar.brokenAfter }.takeRead
    (.scalar (.ofList scalar.text) .plain) scalar.stop next)

/-- A sign that starts no plain scalar. -/
def isSign (c : Char) : Bool :=
  "-?:,[]\x7b\x7d#&*!|>'\"%@\x60".toList.contains c

/-- Can a plain scalar start with these characters? -/
def startsPlain (inFlow : Bool) (char : Char) (following : Option Char) : Bool :=
  !(isSpaceOrTab char || isBreak char || isSign char) ||
    (char == '-' && !following.any isSpaceOrTab) ||
    (!inFlow && (char == '?' || char == ':') && !isGapOrEnd following)

/-- The token that starts with a character. -/
def takeFrom (q : TokenQueue) (char : Char) : Except Fault TokenQueue :=
  let following := q.cursor.peekAt? 1
  let standsAlone := isGapOrEnd following
  if q.mark.column == 0 && char == '%' then q.takeDirective
  else if q.cursor.atDocumentMark '-' then q.takeDocumentMark .documentStart
  else if q.cursor.atDocumentMark '.' then q.takeDocumentMark .documentEnd
  else if char == '[' then q.openFlow .flowSequenceStart
  else if char == '\x7b' then q.openFlow .flowMappingStart
  else if char == ']' then q.closeFlow .flowSequenceEnd
  else if char == '\x7d' then q.closeFlow .flowMappingEnd
  else if char == ',' then q.takeComma
  else if char == '-' && standsAlone then q.takeDash
  else if char == '?' && (q.inFlow || standsAlone) then q.takeQuestion
  else if char == ':' && (q.inFlow || standsAlone) then q.takeColon
  else if char == '*' then q.takeProperty (Anchor.read true)
  else if char == '&' then q.takeProperty (Anchor.read false)
  else if char == '!' then q.takeProperty (Tag.read q.inFlow)
  else if char == '|' && !q.inFlow then q.takeBlockScalar true
  else if char == '>' && !q.inFlow then q.takeBlockScalar false
  else if char == '\'' then q.takeQuoted true
  else if char == '"' then q.takeQuoted false
  else if startsPlain q.inFlow char following then q.takePlain
  else q.cursor.fault .strangeCharacter .nextToken q.mark

def readNext (q : TokenQueue) : Except Fault TokenQueue := do
  let q ← (skipGaps (q.cursor.size + 1) q).dropStaleKeys
  let q := q.unindentTo q.mark.column
  match q.cursor.peek? with
  | none => q.takeEnd
  | some char => q.takeFrom char

/-- May a key start at the first token that waits? -/
def firstIsOpen (q : TokenQueue) : Bool :=
  (q.possibleKey :: q.outerKeys).any fun key => key.any (·.number == q.taken)

/-- Read tokens until it is sure which one is the first. -/
def readFirst : Nat → TokenQueue → Except Fault TokenQueue
  | 0, q => .ok q
  | fuel + 1, q => do
    if q.waiting.isEmpty then
      readFirst fuel (← q.readNext)
    else
      let q ← q.dropStaleKeys
      if q.firstIsOpen then readFirst fuel (← q.readNext) else .ok q

/-- The first token; none behind the end of the stream. -/
def first (q : TokenQueue) : Except Fault (Option Token × TokenQueue) := do
  let q ← readFirst (q.cursor.size + 4) q
  .ok (q.waiting.head?, q)

def dropFirst (q : TokenQueue) : TokenQueue :=
  { q with waiting := q.waiting.tail, taken := q.taken + 1 }

end TokenQueue

end ApiReview.Yaml
