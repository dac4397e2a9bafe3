import Mathlib.Data.Finset.Card
import Mathlib.Data.List.Induction

/-!
# First claims

Some checks go through a list whose items claim keys, and say of an item whether its key
was claimed before, and by which item first.  What is listed for an item then depends on
the item and on those before it.  The items that come too late, and the keys that were
claimed, add up to the items that claim a key.
-/

namespace ApiReview

variable {α β κ : Type}

/-- What is listed for each item in turn, given the items before it. -/
def inTurn (list : List α → α → List β) (items : List α) : List β :=
  items.zipIdx.flatMap fun (item, index) => list (items.take index) item

section InTurn

variable {list : List α → α → List β} {items : List α} {last : α}

@[simp]
theorem inTurn_nil : inTurn list [] = [] :=
  rfl

theorem inTurn_concat : inTurn list (items ++ [last]) = inTurn list items ++ list items last := by
  have earlier : ∀ entry ∈ items.zipIdx,
      list ((items ++ [last]).take entry.2) entry.1 = list (items.take entry.2) entry.1 := by
    rintro ⟨item, index⟩ member
    have inside : index < items.length :=
      (List.getElem?_eq_some_iff.mp (List.mem_zipIdx_iff_getElem?.mp member)).1
    rw [List.take_append_of_le_length (Nat.le_of_lt inside)]
  unfold inTurn
  rw [List.zipIdx_append, List.flatMap_append, List.flatMap_congr earlier]
  simp

theorem filter_inTurn (keep : β → Bool) :
    (inTurn list items).filter keep =
      inTurn (fun earlier item => (list earlier item).filter keep) items :=
  List.filter_flatMap

/-- What does not depend on the earlier items is listed item by item. -/
theorem inTurn_const (each : α → List β) : inTurn (fun _ item => each item) items =
    items.flatMap each := by
  induction items using List.reverseRecOn with
  | nil => rfl
  | append_singleton items last ih => rw [inTurn_concat, ih, List.flatMap_append,
      List.flatMap_singleton]

theorem mem_inTurn {b : β} : b ∈ inTurn list items ↔
    ∃ earlier item later, items = earlier ++ item :: later ∧ b ∈ list earlier item := by
  unfold inTurn
  rw [List.mem_flatMap]
  constructor
  · rintro ⟨⟨item, index⟩, member, listed⟩
    have found : items[index]? = some item := List.mem_zipIdx_iff_getElem?.mp member
    obtain ⟨inside, rfl⟩ := List.getElem?_eq_some_iff.mp found
    refine ⟨items.take index, items[index], items.drop (index + 1), ?_, listed⟩
    rw [List.getElem_cons_drop, List.take_append_drop]
  · rintro ⟨earlier, item, later, rfl, listed⟩
    refine ⟨(item, earlier.length), List.mem_zipIdx_iff_getElem?.mpr (by simp), ?_⟩
    simpa using listed

/-- What holds of what is listed for each item, given the items before it, is told place by
place. -/
theorem exists_reports_inTurn {report : Nat → List β → Prop}
    (each : ∀ place item, items[place]? = some item → report place (list (items.take place) item)) :
    ∃ reports : List (List β), inTurn list items = reports.flatten ∧
      List.Forall₂ report (List.range items.length) reports := by
  refine ⟨items.zipIdx.map fun (item, place) => list (items.take place) item, ?_, ?_⟩
  · rw [inTurn, List.flatMap_def]
  · rw [List.range_eq_range', ← List.zipIdx_map_snd 0 items, List.forall₂_map_left_iff,
      List.forall₂_map_right_iff, List.forall₂_same]
    rintro ⟨item, place⟩ member
    exact each place item (List.mem_zipIdx_iff_getElem?.mp member)

end InTurn

variable [DecidableEq κ] {key? : α → Option κ} {items : List α} {key : κ} {first last : α}

/-- The first item that claims a key. -/
def claimant? (key? : α → Option κ) (items : List α) (key : κ) : Option α :=
  items.find? (key? · == some key)

theorem claimant?_concat : claimant? key? (items ++ [last]) key =
    (claimant? key? items key).or (if key? last = some key then some last else none) := by
  rw [claimant?, List.find?_append]
  congr 1
  by_cases claims : key? last = some key <;> simp [claims]

/-- An item whose key is claimed already, or that has none, claims nothing. -/
theorem claimant?_concat_of_idle
    (idle : ∀ key, key? last = some key → claimant? key? items key ≠ none) (key : κ) :
    claimant? key? (items ++ [last]) key = claimant? key? items key := by
  rw [claimant?_concat]
  by_cases claims : key? last = some key
  · obtain ⟨first, found⟩ := Option.ne_none_iff_exists'.mp (idle key claims)
    rw [found, Option.some_or]
  · rw [if_neg claims, Option.or_none]

/-- An item whose key is not claimed yet claims this key and no other one. -/
theorem claimant?_concat_of_fresh (claims : key? last = some key)
    (fresh : claimant? key? items key = none) (other : κ) :
    claimant? key? (items ++ [last]) other =
      if other = key then some last else claimant? key? items other := by
  rw [claimant?_concat, claims]
  by_cases same : other = key
  · rw [if_pos same, same, fresh, if_pos rfl, Option.none_or]
  · have differs : some key ≠ some other := fun equal => same (Option.some.inj equal).symm
    rw [if_neg same, if_neg differs, Option.or_none]

theorem claimant?_eq_none_iff :
    claimant? key? items key = none ↔ key ∉ items.filterMap key? := by
  simp [claimant?]

theorem claimant?_isSome_iff :
    (claimant? key? items key).isSome = true ↔ ∃ item ∈ items, key? item = some key := by
  simp [claimant?]

theorem getElem?_take_eq_some_iff {index place : Nat} {item : α} :
    (items.take index)[place]? = some item ↔ place < index ∧ items[place]? = some item := by
  rw [List.getElem?_take]
  split_ifs with inside <;> simp [inside]

/-- No item before a place claims a key. -/
theorem claimant?_take_eq_none_iff {index : Nat} :
    claimant? key? (items.take index) key = none ↔
      ∀ place < index, ∀ item, items[place]? = some item → key? item ≠ some key := by
  rw [claimant?, List.find?_eq_none]
  constructor
  · intro none place before item found
    have member := List.mem_of_getElem? (getElem?_take_eq_some_iff.mpr ⟨before, found⟩)
    simpa using none item member
  · intro none item member
    obtain ⟨place, found⟩ := List.mem_iff_getElem?.mp member
    obtain ⟨before, found⟩ := getElem?_take_eq_some_iff.mp found
    simpa using none place before item found

/-- An item is the first before a place to claim a key. -/
theorem claimant?_take_eq_some_iff {index : Nat} :
    claimant? key? (items.take index) key = some first ↔
      ∃ place < index, items[place]? = some first ∧ key? first = some key ∧
        ∀ earlier < place, ∀ item, items[earlier]? = some item → key? item ≠ some key := by
  rw [claimant?, List.find?_eq_some_iff_getElem]
  simp only [beq_iff_eq, Bool.not_eq_true', beq_eq_false_iff_ne]
  constructor
  · rintro ⟨claims, place, inside, rfl, others⟩
    have found := List.getElem?_eq_getElem inside
    obtain ⟨before, found⟩ := getElem?_take_eq_some_iff.mp found
    refine ⟨place, before, found, claims, ?_⟩
    intro earlier less item foundItem
    have foundEarlier := getElem?_take_eq_some_iff.mpr ⟨less.trans before, foundItem⟩
    obtain ⟨-, rfl⟩ := List.getElem?_eq_some_iff.mp foundEarlier
    exact others earlier less
  · rintro ⟨place, before, found, claims, others⟩
    obtain ⟨inside, rfl⟩ := List.getElem?_eq_some_iff.mp
      (getElem?_take_eq_some_iff.mpr ⟨before, found⟩)
    refine ⟨claims, place, inside, rfl, ?_⟩
    intro earlier less
    have foundEarlier := List.getElem?_eq_getElem (less.trans inside)
    exact others earlier less _ (getElem?_take_eq_some_iff.mp foundEarlier).2

/-- The items whose key was claimed before and the keys that are claimed are together as
many as the items that claim a key. -/
theorem length_inTurn_add_card {list : List α → α → List β}
    (late : ∀ earlier item, (list earlier item).length =
      ((key? item).bind (claimant? key? earlier)).toList.length) :
    (inTurn list items).length + (items.filterMap key?).toFinset.card =
      (items.filterMap key?).length := by
  induction items using List.reverseRecOn with
  | nil => rfl
  | append_singleton items last ih =>
      rw [inTurn_concat, List.length_append, late, List.filterMap_append, List.toFinset_append,
        List.length_append, ← ih]
      cases claims : key? last with
      | none => simp [claims]
      | some key =>
          have one : [last].filterMap key? = [key] := by simp [claims]
          rw [one, Option.bind_some]
          by_cases known : key ∈ items.filterMap key?
          · obtain ⟨first, claimed⟩ :=
              Option.ne_none_iff_exists'.mp (mt claimant?_eq_none_iff.mp (not_not_intro known))
            have same : (items.filterMap key?).toFinset ∪ [key].toFinset =
                (items.filterMap key?).toFinset := by simpa using known
            rw [claimed, same, Option.toList_some, List.length_singleton, List.length_singleton]
            omega
          · have fresh : key ∉ (items.filterMap key?).toFinset := by simpa using known
            have more : ((items.filterMap key?).toFinset ∪ [key].toFinset).card =
                (items.filterMap key?).toFinset.card + 1 := by
              rw [List.toFinset_cons, List.toFinset_nil, Finset.union_comm,
                Finset.insert_union, Finset.empty_union, Finset.card_insert_of_notMem fresh]
            rw [claimant?_eq_none_iff.mpr known, more, Option.toList_none, List.length_nil,
              List.length_singleton]
            omega

end ApiReview
