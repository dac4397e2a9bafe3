import ApiReview.Reading.Complaint

/-!
# Faults of JSON texts

A text can break the grammar of JSON, or hold a value of a wrong type.  Both are
reported with the line and the column at which reading stopped, columns counting
the bytes before.
-/

namespace ApiReview.Json

/-- How a text breaks the grammar. -/
inductive Fault where
  | endInList
  | endInObject
  | endInString
  | endInValue
  | colonExpected
  | listGoesOn
  | objectGoesOn
  | wordExpected
  | valueExpected
  | invalidEscape
  | invalidNumber
  | numberOutOfRange
  | controlCharacter
  | keyIsNoString
  | loneSurrogate
  | surrogateCutShort
  | trailingComma
  | trailingCharacters
  | tooDeep
deriving DecidableEq, Repr

/-- The wording of a fault. -/
def Fault.message : Fault → String
  | .endInList => "EOF while parsing a list"
  | .endInObject => "EOF while parsing an object"
  | .endInString => "EOF while parsing a string"
  | .endInValue => "EOF while parsing a value"
  | .colonExpected => "expected `:`"
  | .listGoesOn => "expected `,` or `]`"
  | .objectGoesOn => "expected `,` or `\x7d`"
  | .wordExpected => "expected ident"
  | .valueExpected => "expected value"
  | .invalidEscape => "invalid escape"
  | .invalidNumber => "invalid number"
  | .numberOutOfRange => "number out of range"
  | .controlCharacter =>
    "control character (\\u0000-\\u001F) found while parsing a string"
  | .keyIsNoString => "key must be a string"
  | .loneSurrogate => "lone leading surrogate in hex escape"
  | .surrogateCutShort => "unexpected end of hex escape"
  | .trailingComma => "trailing comma"
  | .trailingCharacters => "trailing characters"
  | .tooDeep => "recursion limit exceeded"

/-- A place in a text: lines count from one, columns are the bytes before. -/
structure Place where
  line : Nat
  column : Nat
deriving DecidableEq, Repr

/-- Why a text was not read: a fault with its place, or a complaint, which gets
its place from the innermost value around it. -/
inductive Failure where
  | fault (fault : Fault) (place : Place)
  | complaint (complaint : Complaint) (place : Option Place)

namespace Failure

/-- The place at which reading stopped, if there is one. -/
def place? : Failure → Option Place
  | .fault _ place => some place
  | .complaint _ place => place

/-- Give a complaint its place, unless it has one. -/
def placedAt (place : Place) : Failure → Failure
  | .complaint c none => .complaint c (some place)
  | f => f

/-- What a failure says, with its place. -/
def message (f : Failure) : String :=
  let words :=
    match f with
    | fault f _ => f.message
    | complaint c _ => c.message Wording.json
  match f.place? with
  | some p => words ++ " at line " ++ toString p.line ++ " column " ++ toString p.column
  | none => words

/-- Line and column of a failure, zero when it has no place. -/
def location (f : Failure) : String :=
  match f.place? with
  | some p => toString p.line ++ ":" ++ toString p.column
  | none => "0:0"

end Failure

end ApiReview.Json
