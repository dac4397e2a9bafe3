import ApiReview.Document.Pointer
import ApiReview.Json.Value
import ApiReview.Table

/-!
# Schemas

A schema is either a reference to a named component or a node with keywords of
its own, properties, items and composition branches.  The keywords that hold no
schema are kept together, so that the tree of schemas shows in the type.
-/

namespace ApiReview

/-- The `type` keyword: one name, or a list of names. -/
inductive TypeNames where
  | single (name : String)
  | several (names : List String)
deriving DecidableEq, Repr

namespace TypeNames

def includes (types : TypeNames) (name : String) : Bool :=
  match types with
  | .single t => t == name
  | .several ts => ts.contains name

/-- The types other than `null`; a single type is kept whatever it is. -/
def nonNull : TypeNames → List String
  | .single t => [t]
  | .several ts => ts.filter (· != "null")

end TypeNames

/-- The `discriminator` keyword. -/
structure Discriminator where
  propertyName : Option String := none
  mapping : Table String := []
deriving DecidableEq, Repr, Inhabited

/-- The keywords of a schema that hold no other schema. -/
structure Keywords where
  /-- The text of `$ref`. -/
  reference : Option String := none
  type : Option TypeNames := none
  format : Option String := none
  title : Option String := none
  description : Option String := none
  /-- The values of `enum`; an empty list is not the same as an absent one.  An enum value
  is tagged with its kind and holds what a JSON value of that kind holds, so it is kept as
  the JSON value. -/
  enumValues : Option (List Json.Value) := none
  discriminator : Option Discriminator := none
  required : List String := []
  minimum : Option Binary64 := none
  maximum : Option Binary64 := none
  minLength : Option Nat := none
  maxLength : Option Nat := none
  minItems : Option Nat := none
  maxItems : Option Nat := none
  minProperties : Option Nat := none
  maxProperties : Option Nat := none
  pattern : Option String := none
  nullable : Option Bool := none
deriving Repr, BEq, Inhabited

/-- The `additionalProperties` keyword: a flag, or a schema for the values. -/
inductive Additional (σ : Type) where
  | allowed (flag : Bool)
  | valued (schema : σ)
deriving Repr, BEq

structure Schema extends Keywords where
  properties : List (String × Schema) := []
  items : Option Schema := none
  allOf : List Schema := []
  oneOf : List Schema := []
  anyOf : List Schema := []
  additional : Option (Additional Schema) := none
deriving Repr, BEq, Inhabited

namespace Schema

/-- Does the node have a `$ref`? -/
def isReference (s : Schema) : Bool :=
  s.reference.isSome

/-- What the reference of a node points at: the component name when it is a
reference into the component schemas, its whole text otherwise. -/
def referenceTarget (s : Schema) : Option String :=
  s.reference.map fun r => (Text.dropOpening? Pointer.schemaRoot r).getD r

/-- The name of the component schema that the node refers to, if its reference
points into the component schemas. -/
def componentTarget? (s : Schema) : Option String :=
  s.reference.bind (Text.dropOpening? Pointer.schemaRoot)

/-- Does the reference point into the component schemas? -/
def isLocalReference (s : Schema) : Bool :=
  s.componentTarget?.isSome

/-- Is this one of the declared types? -/
def isType (s : Schema) (name : String) : Bool :=
  s.type.any (·.includes name)

/-- Declared an object, or undeclared with properties. -/
def isObjectLike (s : Schema) : Bool :=
  s.isType "object" || (s.type.isNone && !s.properties.isEmpty)

/-- Has the node any composition branch? -/
def hasComposition (s : Schema) : Bool :=
  !s.allOf.isEmpty || !s.oneOf.isEmpty || !s.anyOf.isEmpty

/-- Does the node say nothing at all about the structure of its values? -/
def isEmpty (s : Schema) : Bool :=
  s.reference.isNone && s.type.isNone && s.format.isNone && s.properties.isEmpty &&
    s.items.isNone && !s.hasComposition && s.enumValues.isNone && s.additional.isNone &&
    s.discriminator.isNone

/-- A string that carries binary data. -/
def isBinaryString (s : Schema) : Bool :=
  s.isType "string" && (s.format == some "binary" || s.format == some "byte")

/-- An inline object with structure of its own, which should be a component. -/
def isComplexInline (s : Schema) : Bool :=
  !s.isReference && s.isObjectLike && (!s.properties.isEmpty || s.hasComposition)

/-- The schema of the items for an array that has one, else the schema itself. -/
def shape (s : Schema) : Schema :=
  match s.items with
  | some items => if s.isType "array" then items else s
  | none => s

end Schema

/-- Is any value accepted?  `true` and the empty schema say so. -/
def Additional.isFreeForm : Additional Schema → Bool
  | .allowed flag => flag
  | .valued schema => schema.isEmpty

end ApiReview
