import ApiReview.Json.Fault

/-!
# Scanning JSON texts

A cursor is what is left of a text together with the place it has reached.
Scanning a token gives the token or a failure, and in either case the cursor
behind what was looked at, because the place of a failure can depend on it.
-/

namespace ApiReview.Json

/-- The rest of a text and the place at which it begins. -/
structure Cursor where
  rest : List Char
  line : Nat
  column : Nat

namespace Cursor

/-- The cursor at the start of a text. -/
def ofString (s : String) : Cursor :=
  ⟨s.toList, 1, 0⟩

def place (c : Cursor) : Place :=
  ⟨c.line, c.column⟩

/-- The place one byte behind the cursor, or of the cursor itself at the end of
the text. -/
def nextPlace (c : Cursor) : Place :=
  match c.rest with
  | [] => c.place
  | '\n' :: _ => ⟨c.line + 1, 0⟩
  | _ => ⟨c.line, c.column + 1⟩

/-- The place of a cursor moved over a character. -/
def past (c : Cursor) (char : Char) (rest : List Char) : Cursor :=
  if char == '\n' then ⟨rest, c.line + 1, 0⟩ else ⟨rest, c.line, c.column + char.utf8Size⟩

/-- The cursor behind the next character. -/
def next (c : Cursor) : Cursor :=
  match c.rest with
  | [] => c
  | char :: rest => c.past char rest

/-- A character that may stand between tokens. -/
def isGap (char : Char) : Bool :=
  char == ' ' || char == '\n' || char == '\t' || char == '\r'

/-- The cursor behind the gaps that follow. -/
def skipGaps (c : Cursor) : Cursor :=
  go c.rest c
where
  /-- Move over gaps; `rest` is what is left of `c`. -/
  go : List Char → Cursor → Cursor
    | [], c => c
    | char :: rest, c => if isGap char then go rest (c.past char rest) else c

def peek? (c : Cursor) : Option Char :=
  c.rest.head?

end Cursor

/-- A scanner: a token or a failure, and the cursor behind what was looked at. -/
abbrev Scanner (α : Type) := ExceptT Failure (StateM Cursor) α

namespace Scanner

/-- Stop with a fault at the place of the cursor. -/
def faultHere {α : Type} (f : Fault) : Scanner α := do
  let c ← get
  throw (.fault f c.place)

/-- Stop with a fault at the place one byte further on. -/
def faultNext {α : Type} (f : Fault) : Scanner α := do
  let c ← get
  throw (.fault f c.nextPlace)

/-- Stop with a complaint that has no place yet. -/
def complain {α : Type} (c : Complaint) : Scanner α :=
  throw (.complaint c none)

/-- Run a scanner; a complaint without a place gets the place at which it
stopped. -/
def placed {α : Type} (s : Scanner α) : Scanner α := fun c =>
  match s c with
  | (.error f, c') => (.error (f.placedAt c'.place), c')
  | done => done

/-- The next character, without moving over it. -/
def peek : Scanner (Option Char) := do
  return (← get).peek?

/-- Move over the next character. -/
def skip : Scanner Unit :=
  modify Cursor.next

/-- The next character that is no gap, without moving over it. -/
def peekToken : Scanner (Option Char) := do
  modify Cursor.skipGaps
  peek

/-- The rest of a word whose first letter has been read. -/
def word : List Char → Scanner Unit
  | [] => pure ()
  | expected :: rest => do
    match ← peek with
    | none => faultHere .endInValue
    | some c =>
      if c == expected then
        skip
        word rest
      else
        faultNext .wordExpected

/-- Move over the digits that follow, and give them. -/
def digits : Scanner (List Char) := fun c =>
  let rec go : List Char → Cursor → List Char × Cursor
    | [], c => ([], c)
    | d :: rest, c =>
      if d.isDigit then
        let (ds, c') := go rest (c.past d rest)
        (d :: ds, c')
      else
        ([], c)
  let (ds, c') := go c.rest c
  (.ok ds, c')

/-- The value of hexadecimal digits, if all characters are. -/
def hexValue? : List Char → Option Nat :=
  List.foldl (fun value c => do
    let v ← value
    if c.isDigit then some (16 * v + (c.toNat - '0'.toNat))
    else if 'a' ≤ c && c ≤ 'f' then some (16 * v + (c.toNat - 'a'.toNat + 10))
    else if 'A' ≤ c && c ≤ 'F' then some (16 * v + (c.toNat - 'A'.toNat + 10))
    else none) (some 0)

/-- Move over `count` bytes; false when the text ends before. -/
def skipBytes : Nat → Scanner Bool
  | 0 => pure true
  | count + 1 => do
    let c ← get
    match c.rest with
    | [] => pure false
    | char :: rest =>
      if char.utf8Size ≤ count + 1 then
        set (c.past char rest)
        skipBytes (count + 1 - char.utf8Size)
      else
        -- The bytes end inside of this character, which is no digit anyway.
        set { c with column := c.column + (count + 1) }
        pure true
termination_by count => count
decreasing_by
  have := Char.utf8Size_pos char
  omega

/-- The four hexadecimal digits of an escape. -/
def hexEscape : Scanner Nat := do
  let start ← get
  if !(← skipBytes 4) then
    faultHere .endInString
  else
    match hexValue? (start.rest.take 4) with
    | some n => pure n
    | none => faultHere .invalidEscape

/-- The character that a one-letter escape stands for. -/
def simpleEscape? : Char → Option Char
  | '"' => some '"'
  | '\\' => some '\\'
  | '/' => some '/'
  | 'b' => some '\x08'
  | 'f' => some '\x0c'
  | 'n' => some '\n'
  | 'r' => some '\r'
  | 't' => some '\t'
  | _ => none

/-- The next character must be the given one, as the second half of a pair of
surrogates follows. -/
def pairContinues (expected : Char) : Scanner Unit := do
  match ← peek with
  | none => faultHere .endInString
  | some c =>
    if c == expected then skip else faultNext .surrogateCutShort

/-- The character of an escape with four digits, or with twice four digits for a
character beyond U+FFFF. -/
def unicodeEscape : Scanner Char := do
  let high ← hexEscape
  if 0xDC00 ≤ high && high ≤ 0xDFFF then
    faultHere .loneSurrogate
  else if high < 0xD800 || 0xDBFF < high then
    pure (Char.ofNat high)
  else
    pairContinues '\\'
    pairContinues 'u'
    let low ← hexEscape
    if low < 0xDC00 || 0xDFFF < low then
      faultHere .loneSurrogate
    else
      pure (Char.ofNat (0x10000 + (high - 0xD800) * 1024 + (low - 0xDC00)))

/-- The character of an escape, behind its backslash. -/
def escape : Scanner Char := do
  match ← peek with
  | none => faultHere .endInString
  | some 'u' =>
    skip
    unicodeEscape
  | some c =>
    match simpleEscape? c with
    | some char =>
      skip
      pure char
    | none => faultNext .invalidEscape

/-- The rest of a string behind its opening quote, `fuel` characters at most;
`read` holds the characters so far, the last one first. -/
def stringRest : Nat → List Char → Scanner String
  | 0, _ => faultHere .endInString
  | fuel + 1, read => do
    match ← peek with
    | none => faultHere .endInString
    | some '"' =>
      skip
      pure (String.ofList read.reverse)
    | some '\\' =>
      skip
      let c ← escape
      stringRest fuel (c :: read)
    | some c =>
      skip
      if c.toNat < 32 then faultHere .controlCharacter else stringRest fuel (c :: read)

/-- The rest of a string behind its opening quote. -/
def string : Scanner String := do
  stringRest ((← get).rest.length + 1) []

/-- Move over the rest of a string that nobody looks at, `fuel` characters at
most.  Escapes need their digits, but surrogates need no partner. -/
def passStringRest : Nat → Scanner Unit
  | 0 => faultHere .endInString
  | fuel + 1 => do
    match ← peek with
    | none => faultHere .endInString
    | some '"' => skip
    | some '\\' =>
      skip
      match ← peek with
      | none => faultHere .endInString
      | some 'u' =>
        skip
        let _ ← hexEscape
        passStringRest fuel
      | some c =>
        if (simpleEscape? c).isSome then
          skip
          passStringRest fuel
        else
          faultNext .invalidEscape
    | some c =>
      if c.toNat < 32 then
        faultHere .controlCharacter
      else
        skip
        passStringRest fuel

/-- Move over the rest of a string that nobody looks at. -/
def passString : Scanner Unit := do
  passStringRest ((← get).rest.length + 1)

end Scanner

end ApiReview.Json
