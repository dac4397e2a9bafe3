import ApiReview.Json.Value
import ApiReview.Table

/-!
# Values that have no type yet

Some parts of a document can have one of several shapes, and which one it is
shows only once the whole part is there.  Such a part is first read as an
untyped value.  Untyped values are JSON values that may also hold infinite
numbers and have keys that are no texts, as YAML allows both.
-/

namespace ApiReview

/-- A value whose type is not decided yet. -/
inductive Untyped where
  | null
  | bool (value : Bool)
  | integer (value : Int)
  | real (value : Binary64)
  | text (value : String)
  | sequence (items : List Untyped)
  | mapping (entries : List (Untyped × Untyped))
deriving Repr, Inhabited

namespace Untyped

mutual

/-- A JSON value as an untyped one. -/
def ofJson : Json.Value → Untyped
  | .null => .null
  | .bool b => .bool b
  | .number (.integer n) => .integer n
  | .number (.real x) => .real (.finite x)
  | .string s => .text s
  | .array items => .sequence (ofJsonItems items)
  | .object members => .mapping (ofJsonMembers members)

def ofJsonItems : List Json.Value → List Untyped
  | [] => []
  | v :: rest => ofJson v :: ofJsonItems rest

/-- The members of an object as entries whose keys are texts. -/
def ofJsonMembers : List (String × Json.Value) → List (Untyped × Untyped)
  | [] => []
  | (name, v) :: rest => (.text name, ofJson v) :: ofJsonMembers rest

end

mutual

/-- How deeply sequences and mappings are nested. -/
def depth : Untyped → Nat
  | .sequence items => depthItems items + 1
  | .mapping entries => depthEntries entries + 1
  | _ => 0

/-- The greatest depth among the items. -/
def depthItems : List Untyped → Nat
  | [] => 0
  | v :: rest => max (depth v) (depthItems rest)

/-- The greatest depth among the values of the entries. -/
def depthEntries : List (Untyped × Untyped) → Nat
  | [] => 0
  | (_, v) :: rest => max (depth v) (depthEntries rest)

end

end Untyped

end ApiReview
