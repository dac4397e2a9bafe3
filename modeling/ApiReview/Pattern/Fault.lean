/-!
# Faults of patterns

A pattern can break the grammar, ask for characters that do not exist, or match
bytes that are no text.  Two of the faults are about features that patterns of
other dialects have and this one lacks; they are no reason for a finding.
-/

namespace ApiReview.Pattern

/-- What is wrong with a pattern. -/
inductive Fault where
  | classEscape
  | classRangeOrder
  | classRangeEnd
  | classUnclosed
  | decimalInvalid
  | hexEmpty
  | hexNoScalar
  | hexDigit
  | escapeCutShort
  | escapeUnknown
  | flagMinusDangling
  | flagTwice
  | flagMinusTwice
  | flagCutShort
  | flagUnknown
  | groupNameTwice
  | groupNameEmpty
  | groupNameCharacter
  | groupNameUnclosed
  | groupUnclosed
  | groupUnopened
  | nestedTooDeep
  | countOrder
  | countNoDecimal
  | countUnclosed
  | nothingToRepeat
  | wordBoundUnclosed
  | wordBoundUnknown
  | wordBoundCutShort
  | propertyCutOff
  | backreference
  | lookAround
  | notUnicode
  | noText
  | propertyUnknown
  | propertyValueUnknown
deriving DecidableEq, Repr

/-- How deeply groups, classes and repetitions may be nested. -/
def maxDepth : Nat :=
  250

namespace Fault

/-- The wording of a fault. -/
def message : Fault → String
  | .classEscape => "invalid escape sequence found in character class"
  | .classRangeOrder => "invalid character class range, the start must be <= the end"
  | .classRangeEnd => "invalid range boundary, must be a literal"
  | .classUnclosed => "unclosed character class"
  | .decimalInvalid => "decimal literal invalid"
  | .hexEmpty => "hexadecimal literal empty"
  | .hexNoScalar => "hexadecimal literal is not a Unicode scalar value"
  | .hexDigit => "invalid hexadecimal digit"
  | .escapeCutShort => "incomplete escape sequence, reached end of pattern prematurely"
  | .escapeUnknown => "unrecognized escape sequence"
  | .flagMinusDangling => "dangling flag negation operator"
  | .flagTwice => "duplicate flag"
  | .flagMinusTwice => "flag negation operator repeated"
  | .flagCutShort => "expected flag but got end of regex"
  | .flagUnknown => "unrecognized flag"
  | .groupNameTwice => "duplicate capture group name"
  | .groupNameEmpty => "empty capture group name"
  | .groupNameCharacter => "invalid capture group character"
  | .groupNameUnclosed => "unclosed capture group name"
  | .groupUnclosed => "unclosed group"
  | .groupUnopened => "unopened group"
  | .nestedTooDeep =>
    "exceed the maximum number of nested parentheses/brackets (" ++ toString maxDepth ++ ")"
  | .countOrder => "invalid repetition count range, the start must be <= the end"
  | .countNoDecimal => "repetition quantifier expects a valid decimal"
  | .countUnclosed => "unclosed counted repetition"
  | .nothingToRepeat => "repetition operator missing expression"
  | .wordBoundUnclosed =>
    "special word boundary assertion is either unclosed or contains an invalid character"
  | .wordBoundUnknown =>
    "unrecognized special word boundary assertion, " ++
      "valid choices are: start, end, start-half or end-half"
  | .wordBoundCutShort =>
    "found either the beginning of a special word boundary or a bounded repetition " ++
      "on a \\b with an opening brace, but no closing brace"
  | .propertyCutOff => "invalid Unicode character class"
  | .backreference => "backreferences are not supported"
  | .lookAround => "look-around, including look-ahead and look-behind, is not supported"
  | .notUnicode => "Unicode not allowed here"
  | .noText => "pattern can match invalid UTF-8"
  | .propertyUnknown => "Unicode property not found"
  | .propertyValueUnknown => "Unicode property value not found"

end Fault

end ApiReview.Pattern
