import ApiReview.Number.Binary64

/-!
# JSON values

A JSON value keeps the members of its objects in the order in which they were
written.  A number without fraction and exponent is an integer, every other
number a finite binary64 number, so no JSON value holds an infinity.
-/

namespace ApiReview.Json

inductive Number where
  | integer (value : Int)
  | real (value : Finite64)
deriving DecidableEq, Repr, Inhabited

inductive Value where
  | null
  | bool (value : Bool)
  | number (value : Number)
  | string (value : String)
  | array (items : List Value)
  | object (members : List (String × Value))
deriving Repr, BEq, Inhabited

namespace Value

/-- The number, or null in place of one that JSON cannot write. -/
def ofBinary64 : Binary64 → Value
  | .finite x => .number (.real x)
  | .infinite _ => .null
  | .nan => .null

/-- A natural number as a JSON value. -/
def ofNat (n : Nat) : Value :=
  .number (.integer n)

/-- The member of an object with the given name; none for any other value. -/
def member? (v : Value) (name : String) : Option Value :=
  match v with
  | .object members => members.lookup name
  | _ => none

/-- The item of an array with the given index; none for any other value. -/
def item? (v : Value) (index : Nat) : Option Value :=
  match v with
  | .array items => items[index]?
  | _ => none

/-- A text, or null when there is none. -/
def ofText? : Option String → Value
  | some s => .string s
  | none => .null

/-- The array of some texts. -/
def ofTexts (texts : List String) : Value :=
  .array (texts.map .string)

end Value

/-- The six kinds of JSON values, in the order in which messages list them. -/
inductive Kind where
  | null
  | bool
  | number
  | string
  | array
  | object
deriving DecidableEq, Repr

namespace Kind

/-- All kinds in their order. -/
def all : List Kind :=
  [.null, .bool, .number, .string, .array, .object]

/-- The name of a kind inside of a message. -/
def word : Kind → String
  | .null => "null"
  | .bool => "bool"
  | .number => "number"
  | .string => "string"
  | .array => "array"
  | .object => "object"

theorem mem_all (kind : Kind) : kind ∈ all := by
  cases kind <;> decide

end Kind

def Value.kind : Value → Kind
  | .null => .null
  | .bool _ => .bool
  | .number _ => .number
  | .string _ => .string
  | .array _ => .array
  | .object _ => .object

end ApiReview.Json
