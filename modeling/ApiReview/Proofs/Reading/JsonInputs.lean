import ApiReview.Number.Power
import ApiReview.Proofs.Reading.Yields
import Mathlib.Tactic.SplitIfs

/-!
# JSON values as inputs of readers

An untyped value that comes from a JSON value nests as deeply as that value and
holds no infinite numbers.  When its integers fit 64 bits, the numbers read from
it are finite as well.  Whatever is read as a JSON value holds no name twice in
any of its objects.
-/

namespace ApiReview

open Json (Value)

/-- Does an integer fit 64 bits, with or without a sign? -/
def Json.Number.fits : Json.Number → Bool
  | .integer n => fitsSigned 64 n || fitsUnsigned 64 n
  | .real _ => true

mutual

/-- Do all integers in a JSON value fit 64 bits? -/
def Json.Value.fits : Value → Bool
  | .number n => n.fits
  | .array items => Json.itemsFit items
  | .object members => Json.membersFit members
  | _ => true

/-- Do all integers in the items of an array fit 64 bits? -/
def Json.itemsFit : List Value → Bool
  | [] => true
  | v :: rest => v.fits && Json.itemsFit rest

/-- Do all integers in the members of an object fit 64 bits? -/
def Json.membersFit : List (String × Value) → Bool
  | [] => true
  | (_, v) :: rest => v.fits && Json.membersFit rest

end

theorem Json.itemsFit_iff {items : List Value} :
    Json.itemsFit items = true ↔ ∀ v ∈ items, v.fits = true := by
  induction items with
  | nil => simp [Json.itemsFit]
  | cons v rest ih => simp [Json.itemsFit, ih]

theorem Json.membersFit_iff {members : List (String × Value)} :
    Json.membersFit members = true ↔ ∀ name v, (name, v) ∈ members → v.fits = true := by
  induction members with
  | nil => simp [Json.membersFit]
  | cons entry rest ih =>
      obtain ⟨first, v⟩ := entry
      simp only [Json.membersFit, Bool.and_eq_true, ih, List.mem_cons, Prod.mk.injEq]
      constructor
      · rintro ⟨fits, others⟩ name w (⟨-, rfl⟩ | member)
        · exact fits
        · exact others name w member
      · intro all
        exact ⟨all first v (.inl ⟨rfl, rfl⟩), fun name w member => all name w (.inr member)⟩

/-- No object in a JSON value holds a name twice. -/
inductive Json.Value.Distinct : Value → Prop where
  | null : Distinct .null
  | bool (value : Bool) : Distinct (.bool value)
  | number (value : Json.Number) : Distinct (.number value)
  | string (value : String) : Distinct (.string value)
  | array {items : List Value} (inside : ∀ v ∈ items, v.Distinct) : Distinct (.array items)
  | object {members : Table Value} (names : members.Distinct)
      (inside : ∀ name v, (name, v) ∈ members → v.Distinct) : Distinct (.object members)

namespace Untyped

variable {property : Value → Prop} {items : List Value} {members : Table Value}

theorem ofJsonItems_eq : ofJsonItems items = items.map ofJson := by
  induction items with
  | nil => rfl
  | cons v rest ih => rw [ofJsonItems, ih, List.map_cons]

theorem ofJsonMembers_eq :
    ofJsonMembers members = members.map fun (name, v) => (.text name, ofJson v) := by
  induction members with
  | nil => rfl
  | cons entry rest ih => rw [ofJsonMembers, ih, List.map_cons]

theorem depth_item_lt {v : Value} (member : v ∈ items) :
    (ofJson v).depth < (ofJson (.array items)).depth := by
  rw [ofJson, depth, Nat.lt_succ_iff]
  induction items with
  | nil => cases member
  | cons first rest ih =>
      rw [ofJsonItems, depthItems]
      rcases List.mem_cons.mp member with rfl | member
      · exact Nat.le_max_left _ _
      · exact Nat.le_trans (ih member) (Nat.le_max_right _ _)

theorem depth_member_lt {name : String} {v : Value} (member : (name, v) ∈ members) :
    (ofJson v).depth < (ofJson (.object members)).depth := by
  rw [ofJson, depth, Nat.lt_succ_iff]
  induction members with
  | nil => cases member
  | cons entry rest ih =>
      rw [ofJsonMembers, depthEntries]
      rcases List.mem_cons.mp member with rfl | member
      · exact Nat.le_max_left _ _
      · exact Nat.le_trans (ih member) (Nat.le_max_right _ _)

/-- An untyped value comes from a JSON value with a property. -/
def FromJson (property : Value → Prop) (u : Untyped) : Prop :=
  ∃ v, property v ∧ ofJson v = u

theorem closed_fromJson (items : ∀ items, property (.array items) → ∀ v ∈ items, property v)
    (members : ∀ members, property (.object members) →
      ∀ name v, (name, v) ∈ members → property v) :
    Closed (FromJson property) where
  items := by
    rintro untyped ⟨v, given, same⟩ u member
    cases v with
    | array values =>
        rw [ofJson, ofJsonItems_eq] at same
        cases same
        obtain ⟨item, itemMember, rfl⟩ := List.mem_map.mp member
        exact ⟨item, items values given item itemMember, rfl⟩
    | number n => cases n <;> cases same
    | _ => cases same
  values := by
    rintro entries ⟨v, given, same⟩ key u member
    cases v with
    | object values =>
        rw [ofJson, ofJsonMembers_eq] at same
        cases same
        obtain ⟨⟨name, value⟩, entry, equal⟩ := List.mem_map.mp member
        cases equal
        exact ⟨value, members values given name value entry, rfl⟩
    | number n => cases n <;> cases same
    | _ => cases same

theorem closed_json : Closed (FromJson fun _ => True) :=
  closed_fromJson (fun _ _ _ _ => trivial) fun _ _ _ _ _ => trivial

theorem closed_fitting : Closed (FromJson fun v => v.fits = true) :=
  closed_fromJson (fun _ given => Json.itemsFit_iff.mp given)
    fun _ given => Json.membersFit_iff.mp given

end Untyped

namespace Binary64

theorem exists_ofRatio_eq_finite {negative : Bool} {numerator denominator : Nat}
    (small : gridExponent numerator denominator < 971) :
    ∃ x, ofRatio negative numerator denominator = .finite x := by
  unfold ofRatio
  split
  · exact ⟨_, rfl⟩
  · dsimp only
    generalize (if gridExponent numerator denominator < 0 then _ else _) = rounded
    -- A carry into the next power of two raises the exponent by one.
    split
    · rw [if_neg (by dsimp only; omega)]
      split <;> exact ⟨_, rfl⟩
    · rw [if_neg (by dsimp only; omega)]
      split <;> exact ⟨_, rfl⟩

/-- An integer of 64 bits rounds to a finite number. -/
theorem exists_ofInt_eq_finite {n : Int} (fits : (Json.Number.integer n).fits = true) :
    ∃ x, ofInt n = .finite x := by
  have small : n.natAbs < 2 ^ 65 := by
    have words : twoTo (64 - 1) = 2 ^ 63 ∧ twoTo 64 = 2 ^ 64 := ⟨rfl, rfl⟩
    simp only [Json.Number.fits, fitsSigned, fitsUnsigned, Bool.or_eq_true,
      Bool.and_eq_true, decide_eq_true_eq] at fits
    omega
  have log : n.natAbs.log2 < 65 := by
    by_cases zero : n.natAbs = 0
    · simp [zero]
    · exact (Nat.log2_lt zero).mpr small
  refine exists_ofRatio_eq_finite ?_
  unfold gridExponent
  dsimp only
  split_ifs <;> omega

end Binary64

namespace FromUntyped

theorem jsonItems_eq (items : List Untyped) : jsonItems items = items.mapM json := by
  induction items with
  | nil => rfl
  | cons v rest ih =>
      rw [jsonItems, ih, List.mapM_cons]
      rfl

theorem jsonMembers_eq (entries : List (Untyped × Untyped)) (t : Table Value) :
    jsonMembers entries t = putEntries json entries t := by
  induction entries generalizing t with
  | nil => rfl
  | cons entry rest ih =>
      obtain ⟨key, v⟩ := entry
      simp only [jsonMembers, putEntries, ih]

theorem json_sequence (items : List Untyped) :
    json (.sequence items) = (list json (.sequence items)).map .array := by
  rw [json, jsonItems_eq, list]
  cases items.mapM json <;> rfl

theorem json_mapping (entries : List (Untyped × Untyped)) :
    json (.mapping entries) = (table json (.mapping entries)).map .object := by
  rw [json, jsonMembers_eq, table]
  cases putEntries json entries [] <;> rfl

/-- Scalars read from some inputs have a property, and arrays and objects take it
over from what is in them, where no object holds a name twice. -/
structure Inherited (inputs : Untyped → Prop) (property : Value → Prop) : Prop where
  null : property .null
  bool : ∀ b, property (.bool b)
  integer : ∀ n, inputs (.integer n) → property (.number (.integer n))
  real : ∀ x, property (.number (.real x))
  string : ∀ s, property (.string s)
  array : ∀ items, (∀ v ∈ items, property v) → property (.array items)
  object : ∀ members : Table Value, members.Canonical property → property (.object members)

theorem Inherited.yields_json {inputs : Untyped → Prop} {property : Value → Prop}
    (inherited : Inherited inputs property) (closed : Untyped.Closed inputs) :
    Yields inputs property json
  | .sequence items, v, input, ok => by
      rw [json_sequence] at ok
      obtain ⟨values, valuesOk, rfl⟩ := Except.map_eq_ok ok
      refine inherited.array values fun value member => ?_
      obtain ⟨item, itemMember, itemOk⟩ := (Except.mem_of_mapM valuesOk).mp member
      have smaller := List.sizeOf_lt_of_mem itemMember
      exact inherited.yields_json closed item value (closed.items items input item itemMember)
        itemOk
  | .mapping entries, v, input, ok => by
      rw [json_mapping] at ok
      obtain ⟨members, membersOk, rfl⟩ := Except.map_eq_ok ok
      have inside : Yields (fun w => ∃ key, (key, w) ∈ entries) property json := by
        rintro w value ⟨key, member⟩ valueOk
        have smaller : sizeOf w < sizeOf entries := by
          have entry := List.sizeOf_lt_of_mem member
          rw [Prod.mk.sizeOf_spec] at entry
          omega
        exact inherited.yields_json closed w value (closed.values entries input key w member)
          valueOk
      exact inherited.object members
        (putEntries_canonical inside (fun key w member => ⟨key, member⟩) membersOk .nil)
  | .real (.finite x), _, _, rfl => inherited.real x
  | .real (.infinite _), _, _, rfl => inherited.null
  | .real .nan, _, _, rfl => inherited.null
  | .null, _, _, rfl => inherited.null
  | .bool b, _, _, rfl => inherited.bool b
  | .integer n, _, input, rfl => inherited.integer n input
  | .text s, _, _, rfl => inherited.string s
termination_by u => sizeOf u

theorem inherited_distinct : Inherited (fun _ => True) Value.Distinct where
  null := .null
  bool := .bool
  integer n _ := .number (.integer n)
  real x := .number (.real x)
  string := .string
  array _ inside := .array inside
  object _ canonical := .object canonical.names canonical.values

/-- Objects that are read as JSON values hold a name once, at every level. -/
theorem distinct_of_json (u : Untyped) (v : Value) (ok : json u = .ok v) : v.Distinct :=
  inherited_distinct.yields_json ⟨fun _ _ _ _ => trivial, fun _ _ _ _ _ => trivial⟩ u v trivial ok

theorem inherited_fits :
    Inherited (Untyped.FromJson fun v => v.fits = true) fun v => v.fits = true where
  null := rfl
  bool _ := rfl
  integer := by
    rintro n ⟨v, fits, same⟩
    cases v with
    | number m =>
        cases m with
        | integer =>
            cases same
            exact fits
        | real => cases same
    | _ => cases same
  real _ := rfl
  string _ := rfl
  array _ inside := Json.itemsFit_iff.mpr inside
  object _ canonical := Json.membersFit_iff.mpr canonical.values

theorem json_ne_null {v w : Value} (present : v ≠ .null) (ok : json (.ofJson v) = .ok w) :
    w ≠ .null := by
  cases v with
  | null => exact absurd rfl present
  | number n => cases n <;> cases ok <;> nofun
  | array items =>
      rw [Untyped.ofJson, json_sequence] at ok
      obtain ⟨values, -, rfl⟩ := Except.map_eq_ok ok
      nofun
  | object members =>
      rw [Untyped.ofJson, json_mapping] at ok
      obtain ⟨values, -, rfl⟩ := Except.map_eq_ok ok
      nofun
  | _ => cases ok; nofun

theorem optional_of_ne_null {α : Type} {read : FromUntyped α} {v : Value} (present : v ≠ .null) :
    optional read (.ofJson v) = (read (.ofJson v)).map some := by
  cases v with
  | null => exact absurd rfl present
  | number n => cases n <;> rfl
  | _ => rfl

end FromUntyped

end ApiReview
