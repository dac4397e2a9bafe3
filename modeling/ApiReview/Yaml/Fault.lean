/-!
# Faults of YAML texts

A text can break the grammar of YAML while it is cut into tokens or while the
tokens are put together.  A fault says what is wrong and where, and what was
being read at the time, with the place at which that began.
-/

namespace ApiReview.Yaml

/-- A place in a text.  Lines and columns count from zero, and `index` is the
number of characters before the place. -/
structure Mark where
  index : Nat := 0
  line : Nat := 0
  column : Nat := 0
deriving DecidableEq, Repr, Inhabited

namespace Mark

/-- Is this the start of the text, which messages do not name? -/
def isStart (m : Mark) : Bool :=
  m.line == 0 && m.column == 0

/-- Do two marks name the same line and column? -/
def sameSpot (m n : Mark) : Bool :=
  m.line == n.line && m.column == n.column

/-- The place as a message names it, counted from one. -/
def words (m : Mark) : String :=
  "line " ++ toString (m.line + 1) ++ " column " ++ toString (m.column + 1)

/-- The end of a message that names the place, unless it is the start. -/
def suffix (m : Mark) : String :=
  if m.isStart then "" else " at " ++ m.words

/-- Line and column, counted from one. -/
def location (m : Mark) : String :=
  toString (m.line + 1) ++ ":" ++ toString (m.column + 1)

end Mark

/-- What is wrong with a text. -/
inductive Problem where
  | controlCharacter
  | strangeCharacter
  | keyWithoutColon
  | entryNotAllowed
  | keyNotAllowed
  | valueNotAllowed
  | directiveNameMissing
  | directiveNameCutShort
  | directiveUnknown
  | versionDot
  | versionTooLong
  | versionMissing
  | blankExpected
  | blankOrBreakExpected
  | commentOrBreakExpected
  | anchorName
  | tagBang
  | tagBracket
  | tagEmpty
  | escapedOctet
  | leadingOctet
  | trailingOctet
  | zeroIndent
  | tabInIndent
  | tabBreaksIndent
  | documentIndicator
  | endOfText
  | unknownEscape
  | hexDigits
  | invalidEscapeCode
  | unexpectedColon
  | documentStart
  | versionTwice
  | versionUnsupported
  | handleTwice
  | handleUndefined
  | nodeContent
  | dashExpected
  | blockKeyExpected
  | commaOrBracket
  | commaOrBrace
deriving DecidableEq, Repr

/-- The wording of a problem. -/
def Problem.message : Problem → String
  | .controlCharacter => "control characters are not allowed"
  | .strangeCharacter => "found character that cannot start any token"
  | .keyWithoutColon => "could not find expected ':'"
  | .entryNotAllowed => "block sequence entries are not allowed in this context"
  | .keyNotAllowed => "mapping keys are not allowed in this context"
  | .valueNotAllowed => "mapping values are not allowed in this context"
  | .directiveNameMissing => "could not find expected directive name"
  | .directiveNameCutShort => "found unexpected non-alphabetical character"
  | .directiveUnknown => "found unknown directive name"
  | .versionDot => "did not find expected digit or '.' character"
  | .versionTooLong => "found extremely long version number"
  | .versionMissing => "did not find expected version number"
  | .blankExpected => "did not find expected whitespace"
  | .blankOrBreakExpected => "did not find expected whitespace or line break"
  | .commentOrBreakExpected => "did not find expected comment or line break"
  | .anchorName => "did not find expected alphabetic or numeric character"
  | .tagBang => "did not find expected '!'"
  | .tagBracket => "did not find the expected '>'"
  | .tagEmpty => "did not find expected tag URI"
  | .escapedOctet => "did not find URI escaped octet"
  | .leadingOctet => "found an incorrect leading UTF-8 octet"
  | .trailingOctet => "found an incorrect trailing UTF-8 octet"
  | .zeroIndent => "found an indentation indicator equal to 0"
  | .tabInIndent => "found a tab character where an indentation space is expected"
  | .tabBreaksIndent => "found a tab character that violates indentation"
  | .documentIndicator => "found unexpected document indicator"
  | .endOfText => "found unexpected end of stream"
  | .unknownEscape => "found unknown escape character"
  | .hexDigits => "did not find expected hexdecimal number"
  | .invalidEscapeCode => "found invalid Unicode character escape code"
  | .unexpectedColon => "found unexpected ':'"
  | .documentStart => "did not find expected <document start>"
  | .versionTwice => "found duplicate %YAML directive"
  | .versionUnsupported => "found incompatible YAML document"
  | .handleTwice => "found duplicate %TAG directive"
  | .handleUndefined => "found undefined tag handle"
  | .nodeContent => "did not find expected node content"
  | .dashExpected => "did not find expected '-' indicator"
  | .blockKeyExpected => "did not find expected key"
  | .commaOrBracket => "did not find expected ',' or ']'"
  | .commaOrBrace => "did not find expected ',' or '\x7d'"

inductive Activity where
  | nextToken
  | simpleKey
  | directive
  | versionDirective
  | tagDirective
  | tagDirectiveHandle
  | tagDirectiveHandleEnd
  | tagDirectiveUri
  | anchor
  | alias
  | tag
  | tagUri
  | blockScalar
  | quotedScalar
  | escape
  | plainScalar
  | node
  | blockNode
  | flowNode
  | blockSequence
  | blockMapping
  | flowSequence
  | flowMapping
deriving DecidableEq, Repr

def Activity.words : Activity → String
  | .nextToken => "while scanning for the next token"
  | .simpleKey => "while scanning a simple key"
  | .directive => "while scanning a directive"
  | .versionDirective => "while scanning a %YAML directive"
  | .tagDirective => "while scanning a %TAG directive"
  | .tagDirectiveHandle => "while scanning a tag directive"
  | .tagDirectiveHandleEnd => "while parsing a tag directive"
  | .tagDirectiveUri => "while parsing a %TAG directive"
  | .anchor => "while scanning an anchor"
  | .alias => "while scanning an alias"
  | .tag => "while scanning a tag"
  | .tagUri => "while parsing a tag"
  | .blockScalar => "while scanning a block scalar"
  | .quotedScalar => "while scanning a quoted scalar"
  | .escape => "while parsing a quoted scalar"
  | .plainScalar => "while scanning a plain scalar"
  | .node => "while parsing a node"
  | .blockNode => "while parsing a block node"
  | .flowNode => "while parsing a flow node"
  | .blockSequence => "while parsing a block collection"
  | .blockMapping => "while parsing a block mapping"
  | .flowSequence => "while parsing a flow sequence"
  | .flowMapping => "while parsing a flow mapping"

/-- A break of the grammar: what is wrong, where, and during what, together with
the place where that began. -/
structure Fault where
  problem : Problem
  mark : Mark
  during : Option (Activity × Mark) := none
  /-- The byte at which an unreadable character stands; such a fault has no
  mark. -/
  offset : Nat := 0
deriving DecidableEq, Repr

/-- The wording of a fault.  The place where the activity began is named when it
is neither the start of the text nor the place of the problem. -/
def Fault.message (f : Fault) : String :=
  let place :=
    if !f.mark.isStart then f.mark.suffix
    else if f.offset != 0 then " at position " ++ toString f.offset
    else ""
  let context :=
    match f.during with
    | none => ""
    | some (activity, start) =>
      ", " ++ activity.words ++ (if start.sameSpot f.mark then "" else start.suffix)
  f.problem.message ++ place ++ context

end ApiReview.Yaml
