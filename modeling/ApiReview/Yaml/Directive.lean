import ApiReview.Yaml.Tag

/-!
# Directives

A directive stands before a document.  One kind gives the version of YAML, the
other declares a handle for tags.
-/

namespace ApiReview.Yaml

namespace Directive

/-- A part of a version number, of at most nine digits. -/
def versionPart (start : Mark) : Nat → Nat → Cursor → Except Fault (Nat × Cursor)
  | 0, value, c =>
    if c.peek?.any Char.isDigit then c.fault .versionTooLong .versionDirective start
    else .ok (value, c)
  | left + 1, value, c =>
    match c.peek? with
    | some d =>
      if d.isDigit then
        versionPart start left (10 * value + (d.toNat - '0'.toNat)) c.next
      else if left == 8 then c.fault .versionMissing .versionDirective start
      else .ok (value, c)
    | none =>
      if left == 8 then c.fault .versionMissing .versionDirective start
      else .ok (value, c)

def version (start : Mark) (c : Cursor) : Except Fault (TokenKind × Cursor) := do
  let (major, c) ← versionPart start 9 0 (c.skipWhile isSpaceOrTab)
  if c.sees '.' then
    let (minor, c) ← versionPart start 9 0 c.next
    .ok (.version major minor, c)
  else
    c.fault .versionDot .versionDirective start

/-- A handle and what it stands for. -/
def handle (start : Mark) (c : Cursor) : Except Fault (TokenKind × Cursor) := do
  let (head, c) ← Tag.handle .directive start (c.skipWhile isSpaceOrTab)
  if !c.peek?.any isSpaceOrTab then
    c.fault .blankExpected .tagDirective start
  else
    let (uri, c) ← Tag.uri true .directive start [] (c.skipWhile isSpaceOrTab)
    if isGapOrEnd c.peek? then .ok (.handle (.ofList head) (.ofList uri), c)
    else c.fault .blankOrBreakExpected .tagDirective start

def name (start : Mark) (c : Cursor) : Except Fault (String × Cursor) :=
  let (letters, c) := c.takeWhile isNameChar
  if letters.isEmpty then c.fault .directiveNameMissing .directive start
  else if isGapOrEnd c.peek? then .ok (.ofList letters, c)
  else c.fault .directiveNameCutShort .directive start

/-- The directive at whose sign the cursor stands, the place where it stops, and
the cursor behind its line. -/
def read (c : Cursor) : Except Fault (TokenKind × Mark × Cursor) := do
  let start := c.mark
  let (kind, c) ← name start c.next
  let (token, c) ←
    if kind == "YAML" then version start c
    else if kind == "TAG" then handle start c
    else c.fault .directiveUnknown .directive start
  let stop := c.mark
  let c := (c.skipWhile isSpaceOrTab).skipComment
  if isBreakOrEnd c.peek? then .ok (token, stop, c.skipBreak)
  else c.fault .commentOrBreakExpected .directive start

end Directive

end ApiReview.Yaml
