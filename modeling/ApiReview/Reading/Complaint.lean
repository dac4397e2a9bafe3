import ApiReview.Reading.Untyped
import ApiReview.Number.Layout
import ApiReview.Text.Quoted

/-!
# What can be wrong with a value

A complaint says why a value is not of the type that is wanted in its place.
Its wording is the same for all formats, up to two points on which the formats
differ: what an absent value is called, and how a number with a fraction is
written.
-/

namespace ApiReview

/-- What was found in place of the wanted value. -/
inductive Found where
  | absent
  | bool (value : Bool)
  | integer (value : Int)
  | real (value : Binary64)
  | text (value : String)
  | sequence
  | mapping
  /-- A value with a tag of its own, as only YAML has them. -/
  | tagged
  /-- An integer too large for 64 bits, as only YAML has them. -/
  | hugeInteger (value : Int)
deriving Repr

/-- Why a value is not of the wanted type. -/
inductive Complaint where
  /-- The value is of another type. -/
  | wrongType (found : Found) (wanted : String)
  /-- The type is right, but this value is not allowed. -/
  | wrongValue (found : Found) (wanted : String)
  /-- A list that stands for a record has too few or too many items. -/
  | wrongLength (length : Nat) (wanted : String)
  | missingField (name : String)
  | duplicateField (name : String)
  /-- A word that is none of the listed ones. -/
  | unknownWord (word : String) (known : List String)
  /-- None of the shapes that a part can have fits. -/
  | noShape (union : String)
  /-- A value breaks a rule of its own, given in words. -/
  | custom (message : String)
deriving Repr

/-- The points on which the wording of complaints differs between formats. -/
structure Wording where
  absent : String
  real : Binary64 → String

namespace Wording

/-- An absent JSON value is called by its spelling, and numbers are shown as
JSON. -/
def json : Wording where
  absent := "null"
  real := Binary64.json

/-- An absent YAML value has many spellings; numbers are shown without an
exponent. -/
def yaml : Wording where
  absent := "unit value"
  real := Binary64.plainWithPoint

end Wording

namespace Found

/-- What an untyped value is when it is not of the wanted type. -/
def ofUntyped : Untyped → Found
  | .null => .absent
  | .bool b => .bool b
  | .integer n => .integer n
  | .real x => .real x
  | .text s => .text s
  | .sequence _ => .sequence
  | .mapping _ => .mapping

def describe (wording : Wording) : Found → String
  | .absent => wording.absent
  | .bool b => "boolean `" ++ (if b then "true" else "false") ++ "`"
  | .integer n => "integer `" ++ toString n ++ "`"
  | .real x => "floating point `" ++ wording.real x ++ "`"
  | .text s => "string " ++ Text.shown s
  | .sequence => "sequence"
  | .mapping => "map"
  | .tagged => "enum"
  | .hugeInteger n =>
    "integer `" ++ toString n ++ "` as " ++ (if n < 0 then "i128" else "u128")

end Found

namespace Complaint

/-- Words in backquotes, separated by commas. -/
def listWords (words : List String) : String :=
  ", ".intercalate (words.map fun w => "`" ++ w ++ "`")

/-- The known words, as the end of a complaint lists them. -/
def knownWords : List String → String
  | [w] => "`" ++ w ++ "`"
  | [v, w] => "`" ++ v ++ "` or `" ++ w ++ "`"
  | words => "one of " ++ listWords words

def message (wording : Wording) : Complaint → String
  | .wrongType found wanted =>
    "invalid type: " ++ found.describe wording ++ ", expected " ++ wanted
  | .wrongValue found wanted =>
    "invalid value: " ++ found.describe wording ++ ", expected " ++ wanted
  | .wrongLength length wanted =>
    "invalid length " ++ toString length ++ ", expected " ++ wanted
  | .missingField name => "missing field `" ++ name ++ "`"
  | .duplicateField name => "duplicate field `" ++ name ++ "`"
  | .unknownWord word known =>
    "unknown variant `" ++ word ++ "`, expected " ++ knownWords known
  | .noShape union => "data did not match any variant of untagged enum " ++ union
  | .custom message => message

end Complaint

end ApiReview
