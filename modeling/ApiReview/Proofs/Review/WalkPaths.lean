import ApiReview.Proofs.Document.Pointers
import ApiReview.Proofs.Review.WalkOrder
import ApiReview.Proofs.Table
import ApiReview.Proofs.Text.Cut
import Mathlib.Data.List.Induction
import Std.Data.String.ToNat

/-!
# The paths of a walk

A path is put together from the texts of slots, and nothing in it is escaped.  As long as
no property has a name with a dot or an opening bracket, and none is called `items`, the
path can still be taken apart: it is cut at its dots, and each piece is the label of one
slot only.  Then no two visits of a walk have the same path.
-/

namespace ApiReview

/-- The name of a property, and the keyword of any other slot below the root. -/
def Slot.keyword : Slot → String
  | .root => ""
  | .property name => name
  | .items => "items"
  | .allOf _ => "allOf"
  | .oneOf _ => "oneOf"
  | .anyOf _ => "anyOf"

/-- The number of a member of a composition branch. -/
def Slot.index? : Slot → Option Nat
  | .allOf index | .oneOf index | .anyOf index => some index
  | _ => none

def bracketed (index : Nat) : List Char :=
  '[' :: ((toString index).toList ++ [']'])

/-- What a slot adds to a path behind its dot. -/
def Slot.label (slot : Slot) : List Char :=
  slot.keyword.toList ++ (slot.index?.map bracketed).getD []

/-- A name that cannot be taken for another slot, nor for several slots. -/
structure PlainName (name : String) : Prop where
  noDot : '.' ∉ name.toList
  noBracket : '[' ∉ name.toList
  notItems : name ≠ "items"

instance (name : String) : Decidable (PlainName name) :=
  decidable_of_iff ('.' ∉ name.toList ∧ '[' ∉ name.toList ∧ name ≠ "items")
    ⟨fun ⟨noDot, noBracket, notItems⟩ => ⟨noDot, noBracket, notItems⟩,
      fun ⟨noDot, noBracket, notItems⟩ => ⟨noDot, noBracket, notItems⟩⟩

/-- A slot below the root, with a plain name if it is a property. -/
def Slot.Plain : Slot → Prop
  | .root => False
  | .property name => PlainName name
  | _ => True

section Labels

variable {slot other : Slot} {slots others : List Slot}

end Labels

namespace Schema

/-- The names of the properties of a node are plain, and no two of them are the same. -/
structure PlainNames (s : Schema) : Prop where
  distinct : Table.Distinct s.properties
  plain : ∀ name ∈ Table.names s.properties, PlainName name

instance (s : Schema) : Decidable s.PlainNames :=
  decidable_of_iff
    ((Table.names s.properties).Nodup ∧ ∀ name ∈ Table.names s.properties, PlainName name)
    ⟨fun ⟨distinct, plain⟩ => ⟨distinct, plain⟩, fun ⟨distinct, plain⟩ => ⟨distinct, plain⟩⟩

variable {s root : Schema} {above : Option Schema} {slots : List Slot}
  {way other : List Nat} {place otherPlace : Place}

/-- All nodes of a schema have properties with plain names. -/
def PlainThroughout (s : Schema) : Prop :=
  ∀ node, Contains s node → node.PlainNames

theorem plainThroughout_iff : s.PlainThroughout ↔
    s.PlainNames ∧ ∀ child, s.ChildOf child → child.PlainThroughout := by
  constructor
  · intro plain
    exact ⟨plain s .refl, fun child below node contains => plain node (.head below contains)⟩
  · rintro ⟨names, each⟩ node contains
    rcases contains.cases_head with rfl | ⟨child, below, contains⟩
    · exact names
    · exact each child below node contains

theorem PlainThroughout.child (plain : s.PlainThroughout) {slot : Slot} {child : Schema}
    (member : (slot, child) ∈ s.children) : child.PlainThroughout :=
  (plainThroughout_iff.mp plain).2 child (childOf_iff.mpr ⟨slot, member⟩)

end Schema

end ApiReview
