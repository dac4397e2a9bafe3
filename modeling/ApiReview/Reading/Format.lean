import ApiReview.Reading.Complaint

/-!
# Formats from which typed values are read

A document can be written as JSON or as YAML, and parts of it are read from
untyped values.  `Format R` lists what is needed to read typed values, where
`R α` is a reading of an `α` from the format.  The types of the document are
described once, over any format, and each format keeps its own rules on errors,
positions and nesting.

A record is read entry by entry in the order of the text.  `Field R σ` tells
how the entry of one name changes a record of type `σ` whose fields start with
their defaults.
-/

namespace ApiReview

/-- One field of a record: its name, whether it has to be given, and how its
value changes the record. -/
structure Field (R : Type → Type) (σ : Type) where
  name : String
  required : Bool
  read : R (σ → σ)

/-- What a format offers to readers of typed values. -/
class Format (R : Type → Type) where
  /-- Change the value that was read. -/
  map {α β : Type} : (α → β) → R α → R β
  /-- A reading that is set up only when it is used. -/
  delay {α : Type} : (Unit → R α) → R α
  /-- A text. -/
  text : R String
  /-- A truth value. -/
  flag : R Bool
  /-- A natural number below `2 ^ 64`. -/
  count : R Nat
  /-- A binary64 number. -/
  number : R Binary64
  /-- A value that may be given as absent. -/
  optional {α : Type} : R α → R (Option α)
  /-- A list of values. -/
  list {α : Type} : R α → R (List α)
  /-- A table of values; of several values for a name the last one counts. -/
  table {α : Type} : R α → R (Table α)
  /-- A record with the given name and fields, from its defaults. -/
  record {σ : Type} : String → List (Field R σ) → σ → R σ
  /-- Any JSON value. -/
  json : R Json.Value
  /-- An untyped value, which is then decided on as a whole. -/
  decide {α : Type} : (Untyped → Except Complaint α) → R α

namespace Field

variable {R : Type → Type} [Format R] {σ α : Type}

/-- A field that may be left out. -/
def defaulted (name : String) (read : R α) (set : α → σ → σ) : Field R σ :=
  ⟨name, false, Format.map set read⟩

/-- A field that may be left out or given as absent. -/
def optional (name : String) (read : R α) (set : Option α → σ → σ) : Field R σ :=
  ⟨name, false, Format.map set (Format.optional read)⟩

def needed (name : String) (read : R α) (set : α → σ → σ) : Field R σ :=
  ⟨name, true, Format.map set read⟩

/-- The name of the first required field that is not among the given ones. -/
def missing? (fields : List (Field R σ)) (given : List String) : Option String :=
  (fields.find? fun f => f.required && !given.contains f.name).map Field.name

/-- What a list that stands for a record should have been. -/
def lengthWanted (record : String) (fields : List (Field R σ)) : String :=
  "struct " ++ record ++ " with " ++ toString fields.length ++
    (if fields.length == 1 then " element" else " elements")

end Field

end ApiReview
