import ApiReview.Document.Printing
import ApiReview.Proofs.Document.Pointers
import ApiReview.Proofs.Table
import Std.Data.String.ToNat

/-!
# Following pointers

A pointer is followed in a JSON value key by key: a key names a member of an
object, and writes the index of an item of an array in decimal digits.
-/

namespace ApiReview.Json.Value

variable {α : Type} {v w : Value} {key : String} {keys rest : List String}

/-- The index that a key writes, without leading zeros. -/
def index? (key : String) : Option Nat :=
  key.toNat?.filter fun n => toString n == key

/-- The value one key further on. -/
def step? (v : Value) (key : String) : Option Value :=
  match v with
  | .array _ => (index? key).bind v.item?
  | _ => v.member? key

/-- The value to which some keys lead. -/
def follow? (v : Value) : List String → Option Value
  | [] => some v
  | key :: rest => (v.step? key).bind (·.follow? rest)

/-- The value to which a pointer leads. -/
def resolve? (v : Value) (pointer : String) : Option Value :=
  (Pointer.keys? pointer).bind v.follow?

@[simp]
theorem resolve?_ofKeys : v.resolve? (Pointer.ofKeys keys) = v.follow? keys := by
  simp [resolve?]

theorem follow?_cons (step : v.step? key = some w) :
    v.follow? (key :: rest) = w.follow? rest := by
  simp [follow?, step]

theorem step?_object {members : List (String × Value)} :
    step? (.object members) key = members.lookup key :=
  rfl

theorem index?_toString (n : Nat) : index? (toString n) = some n := by
  unfold index?
  rw [Nat.toString_eq_repr, Nat.toNat?_repr]
  simp [Nat.toString_eq_repr]

theorem step?_ofTable {print : α → Value} {t : Table α} {a : α} (distinct : t.Distinct)
    (entry : (key, a) ∈ t) : (ofTable print t).step? key = some (print a) := by
  have found := distinct.get?_eq_some_iff.mpr entry
  rw [ofTable, step?_object]
  exact (Table.get?_map print).trans (by rw [found, Option.map_some])

theorem step?_ofList {print : α → Value} {items : List α} {index : Nat} {a : α}
    (item : items[index]? = some a) :
    (ofList print items).step? (toString index) = some (print a) := by
  rw [ofList, step?, index?_toString, Option.bind_some, item?]
  rw [List.getElem?_map, item, Option.map_some]

end ApiReview.Json.Value
