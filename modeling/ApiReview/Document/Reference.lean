import ApiReview.Table
import ApiReview.Text.Cut

/-!
# References to components

Parameters, request bodies, responses and security schemes are given in place or
by a reference to a component, which may itself be a reference.  A chain of
references is followed over at most seventeen of them, which also ends the
search on a loop.
-/

namespace ApiReview

/-- A part of a document, given in place or by reference. -/
inductive RefOr (α : Type) where
  | ref (reference : String)
  | item (value : α)
deriving Repr, BEq

namespace RefOr

variable {α : Type}

/-- The name under which a reference is looked up: what stands behind its last
slash. -/
def key (reference : String) : String :=
  Text.afterLast '/' reference

/-- The part itself, found through at most `hops` references. -/
def resolveWithin (table : Table (RefOr α)) : Nat → RefOr α → Option α
  | _, .item value => some value
  | 0, .ref _ => none
  | hops + 1, .ref reference =>
    (table.get? (key reference)).bind (resolveWithin table hops)

/-- How many references in a row are followed. -/
def maxHops : Nat :=
  17

/-- The part itself, looked up in a table of components. -/
def resolve (table : Table (RefOr α)) (part : RefOr α) : Option α :=
  resolveWithin table maxHops part

/-- The text of the reference, for a part given by one. -/
def reference? : RefOr α → Option String
  | .ref reference => some reference
  | .item _ => none

/-- The part itself if it is given in place. -/
def item? : RefOr α → Option α
  | .ref _ => none
  | .item value => some value

end RefOr

end ApiReview
