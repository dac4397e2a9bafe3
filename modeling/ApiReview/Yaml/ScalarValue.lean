import ApiReview.Number.FromText
import ApiReview.Number.Power
import ApiReview.Reading.Complaint
import ApiReview.Yaml.Event

/-!
# The values of scalars

A plain scalar without a tag can stand for an absent value, a truth value, an
integer or another number; if it stands for none of these, it is a text.  Other
scalars are texts, unless one of the common tags says otherwise.
-/

namespace ApiReview.Yaml

/-- What a scalar stands for. -/
inductive ScalarValue where
  | absent
  | bool (value : Bool)
  | integer (value : Int)
  /-- An integer that does not fit 64 bits. -/
  | hugeInteger (value : Int)
  | real (value : Binary64)
  | text (value : String)

namespace ScalarValue

/-- Is this one of the words for an absent value? -/
def isAbsentWord (s : String) : Bool :=
  s == "null" || s == "Null" || s == "NULL" || s == "~"

/-- The truth value that a word gives. -/
def flag? (s : String) : Option Bool :=
  if s == "true" || s == "True" || s == "TRUE" then some true
  else if s == "false" || s == "False" || s == "FALSE" then some false
  else none

/-- The text behind its sign, if it has one. -/
def unsigned : List Char → List Char
  | '+' :: rest => rest
  | '-' :: rest => rest
  | chars => chars

/-- Digits that start with a needless zero are no number. -/
def hasNeedlessZero (s : String) : Bool :=
  match unsigned s.toList with
  | '0' :: rest => !rest.isEmpty && rest.all Char.isDigit
  | _ => false

/-- The value of digits, with the sign of their base in front unless it is
ten. -/
def magnitude? : List Char → Option Nat
  | '0' :: 'x' :: digits => natOfDigits? 16 digits
  | '0' :: 'o' :: digits => natOfDigits? 8 digits
  | '0' :: 'b' :: digits => natOfDigits? 2 digits
  | digits => natOfDigits? 10 digits

/-- The integer of any size that a text gives. -/
def integer? (s : String) : Option Int :=
  if hasNeedlessZero s then none
  else
    match s.toList with
    | '-' :: rest => (magnitude? rest).map fun n => -(n : Int)
    | '+' :: rest => (magnitude? rest).map fun n => (n : Int)
    | chars => (magnitude? chars).map fun n => (n : Int)

/-- The natural number below `2 ^ 64` that a text gives; a minus sign is not
allowed. -/
def count? (s : String) : Option Nat :=
  match integer? s with
  | some n => if s.startsWith "-" || !fitsUnsigned 64 n then none else some n.toNat
  | none => none

/-- The binary64 number that a text gives.  Infinities and what is no number have
words of their own, and a decimal has to be finite. -/
def number? (s : String) : Option Binary64 :=
  let positive := if s.startsWith "+" then String.ofList s.toList.tail else s
  if s.startsWith "++" || s.startsWith "+-" then none
  else if [".inf", ".Inf", ".INF"].contains positive then some (.infinite false)
  else if ["-.inf", "-.Inf", "-.INF"].contains s then some (.infinite true)
  else if [".nan", ".NaN", ".NAN"].contains s then some .nan
  else
    match Binary64.ofText? positive with
    | some (.finite x) => some (.finite x)
    | _ => none

/-- The integer that a text gives, in one or two words of 64 bits. -/
def integerValue? (s : String) : Option ScalarValue :=
  match integer? s with
  | some n =>
    if fitsSigned 64 n || fitsUnsigned 64 n then some (.integer n)
    else if fitsSigned 128 n || fitsUnsigned 128 n then some (.hugeInteger n)
    else none
  | none => none

/-- What a plain scalar without a tag stands for. -/
def ofPlain (s : String) : ScalarValue :=
  if s.isEmpty || isAbsentWord s then .absent
  else
    match flag? s, integerValue? s with
    | some b, _ => .bool b
    | none, some n => n
    | none, none =>
      match if hasNeedlessZero s then none else number? s with
      | some x => .real x
      | none => .text s

/-- The tags that say what a scalar stands for. -/
inductive CommonTag where
  | flag
  | integer
  | number
  | absent
deriving DecidableEq, Repr

def CommonTag.ofName? (name : String) : Option CommonTag :=
  [("tag:yaml.org,2002:bool", CommonTag.flag), ("tag:yaml.org,2002:int", .integer),
   ("tag:yaml.org,2002:float", .number), ("tag:yaml.org,2002:null", .absent)].lookup name

/-- The value of a scalar with a common tag. -/
def ofCommonTag (tag : CommonTag) (s : String) : Except Complaint ScalarValue :=
  let read (value : Option ScalarValue) (wanted : String) : Except Complaint ScalarValue :=
    match value with
    | some v => .ok v
    | none => .error (.wrongValue (.text s) wanted)
  match tag with
  | .flag => read ((flag? s).map .bool) "a boolean"
  | .integer => read (integerValue? s) "an integer"
  | .number => read ((number? s).map .real) "a float"
  | .absent => read (if isAbsentWord s then some .absent else none) "null"

def ofScalar (tag : Option String) (s : String) (style : ScalarStyle) :
    Except Complaint ScalarValue :=
  let plain := if style = .plain then .ofPlain s else .text s
  match tag with
  | none => .ok plain
  | some name =>
    match CommonTag.ofName? name with
    | some common => ofCommonTag common s
    | none => .ok (if name.startsWith "!" then plain else .text s)

/-- What a scalar is when it is not of the wanted type. -/
def found : ScalarValue → Found
  | .absent => .absent
  | .bool b => .bool b
  | .integer n => .integer n
  | .hugeInteger n => .hugeInteger n
  | .real x => .real x
  | .text s => .text s

end ScalarValue

end ApiReview.Yaml
