import ApiReview.Number.Power
import ApiReview.Yaml.QuotedScalar
import ApiReview.Yaml.Token

/-!
# Tags and anchors

A tag is written in full between angle brackets, or as a handle and a rest.  The
handle stands for the first part of the tag, which a directive can give.  Tags
may hold characters that are escaped byte by byte.
-/

namespace ApiReview.Yaml

namespace Tag

/-- What is being read: a tag, or the directive that declares a handle. -/
inductive Place where
  | node
  | directive
deriving DecidableEq, Repr

/-- The activity of reading the address part. -/
def Place.uriActivity : Place → Activity
  | .node => .tagUri
  | .directive => .tagDirectiveUri

/-- A character of an address; `wide` allows the signs of flow collections. -/
def isUriChar (wide : Bool) (c : Char) : Bool :=
  isNameChar c || ";/?:@&=+$.%!~*'()".toList.contains c ||
    (wide && (c == ',' || c == '[' || c == ']'))

/-- The byte that is escaped at the cursor, if it is. -/
def escapedByte? (c : Cursor) : Option Nat :=
  match c.rest with
  | '%' :: a :: b :: _ => do some (16 * (← QuotedScalar.hexDigit? a) + (← QuotedScalar.hexDigit? b))
  | _ => none

/-- How many bytes a character has that starts with this one. -/
def byteCount (byte : Nat) : Nat :=
  if byte < 0x80 then 1
  else if byte < 0xC0 then 0
  else if byte < 0xE0 then 2
  else if byte < 0xF0 then 3
  else if byte < 0xF8 then 4
  else 0

/-- Pass the remaining escaped bytes of a character; the first part of the
result is the code point. -/
def trailingBytes (place : Place) (start : Mark) :
    Nat → Nat → Cursor → Except Fault (Nat × Cursor)
  | 0, point, c => .ok (point, c)
  | left + 1, point, c =>
    match escapedByte? c with
    | none => c.fault .escapedOctet place.uriActivity start
    | some byte =>
      if byte / 64 != 2 then c.fault .trailingOctet place.uriActivity start
      else trailingBytes place start left (64 * point + byte % 64) (c.skip 3)

/-- A character that is escaped byte by byte. -/
def escapedChar (place : Place) (start : Mark) (c : Cursor) :
    Except Fault (Char × Cursor) :=
  match escapedByte? c with
  | none => c.fault .escapedOctet place.uriActivity start
  | some byte =>
    match byteCount byte with
    | 0 => c.fault .leadingOctet place.uriActivity start
    | 1 => .ok (Char.ofNat byte, c.skip 3)
    | count + 1 => do
      let (point, c) ←
        trailingBytes place start count (byte % twoTo (6 - count)) (c.skip 3)
      .ok (Char.ofNat point, c)

/-- The rest of an address, of which `read` was read before. -/
def uriRest (wide : Bool) (place : Place) (start : Mark) :
    Nat → List Char → Cursor → Except Fault (List Char × Cursor)
  | 0, read, c => .ok (read.reverse, c)
  | fuel + 1, read, c =>
    match c.peek? with
    | some '%' => do
      let (char, c) ← escapedChar place start c
      uriRest wide place start fuel (char :: read) c
    | some char =>
      if isUriChar wide char then uriRest wide place start fuel (char :: read) c.next
      else .ok (read.reverse, c)
    | none => .ok (read.reverse, c)

/-- An address that goes on from `head`; it must not be empty. -/
def uri (wide : Bool) (place : Place) (start : Mark) (head : List Char) (c : Cursor) :
    Except Fault (List Char × Cursor) := do
  let (text, next) ← uriRest wide place start (c.size + 1) (head.drop 1).reverse c
  if head.isEmpty && text.isEmpty then next.fault .tagEmpty place.uriActivity start
  else .ok (text, next)

/-- A handle: names between exclamation marks, or only the first mark with what
follows it. -/
def handle (place : Place) (start : Mark) (c : Cursor) :
    Except Fault (List Char × Cursor) :=
  if !c.sees '!' then
    c.fault .tagBang
      (match place with | .node => .tag | .directive => .tagDirectiveHandle) start
  else
    let (letters, c) := c.next.takeWhile isNameChar
    if c.sees '!' then .ok ('!' :: letters ++ ['!'], c.next)
    else if place == .directive && !letters.isEmpty then
      c.fault .tagBang .tagDirectiveHandleEnd start
    else .ok ('!' :: letters, c)

/-- Handle and rest of a tag that is not written in full. -/
def short (start : Mark) (c : Cursor) : Except Fault (List Char × List Char × Cursor) := do
  let (head, c) ← handle .node start c
  if 2 ≤ head.length && head.getLast? == some '!' then
    let (rest, c) ← uri false .node start [] c
    .ok (head, rest, c)
  else
    let (rest, c) ← uri false .node start head c
    if rest.isEmpty then .ok ([], ['!'], c) else .ok (['!'], rest, c)

/-- A tag written in full, between angle brackets. -/
def full (start : Mark) (c : Cursor) : Except Fault (List Char × List Char × Cursor) := do
  let (text, c) ← uri true .node start [] (c.skip 2)
  if c.sees '>' then .ok ([], text, c.next) else c.fault .tagBracket .tag start

def read (inFlow : Bool) (c : Cursor) : Except Fault (TokenKind × Cursor) := do
  let start := c.mark
  let (head, rest, c) ← if c.peekAt? 1 == some '<' then full start c else short start c
  if isGapOrEnd c.peek? || (inFlow && c.sees ',') then
    .ok (.tag (.ofList head) (.ofList rest), c)
  else
    c.fault .blankOrBreakExpected .tag start

end Tag

namespace Anchor

/-- May this follow a name? -/
def endsName (c : Option Char) : Bool :=
  isGapOrEnd c || c.any fun c => "?:,]\x7d%@\x60".toList.contains c

/-- The name of an anchor or of an alias, behind its sign. -/
def read (isAlias : Bool) (c : Cursor) : Except Fault (TokenKind × Cursor) :=
  let start := c.mark
  let (name, c) := c.next.takeWhile isNameChar
  if name.isEmpty || !endsName c.peek? then
    c.fault .anchorName (if isAlias then .alias else .anchor) start
  else
    .ok (if isAlias then .alias (.ofList name) else .anchor (.ofList name), c)

end Anchor

end ApiReview.Yaml
