import ApiReview.Proofs.Review.WalkedNodes
import Mathlib.Data.List.Basic
import Mathlib.Tactic.Choose

/-!
# The order of a walk

The way to a node of a schema is the list of the numbers of children that lead to
it from the root, and references have no children.  The walk visits the places of
a schema in ascending order of their ways, each of them once, and leaves out the
references to names that were open from the start.  At its end the same names are
open as before.
-/

namespace ApiReview

/-- A node of a schema together with where it stands. -/
structure Place where
  /-- The slots on the way from the root. -/
  slots : List Slot
  node : Schema
  above : Option Schema

namespace Place

/-- The reference at a place is passed over, since its target is open. -/
def Passed (opened : List String) (place : Place) : Prop :=
  ∃ target ∈ opened, place.node.referenceTarget = some target

/-- The visit of a place on a walk that starts at some path. -/
def visit (start : String) (place : Place) : Visit where
  schema := place.node
  path := start ++ String.join (place.slots.map Slot.text)
  slot := place.slots.getLastD .root
  parent := place.above

end Place

namespace Schema

/-- The place to which a way leads from a node that stands behind some slots. -/
def placeFrom (slots : List Slot) (above : Option Schema) (s : Schema) : List Nat → Option Place
  | [] => some ⟨slots, s, above⟩
  | index :: way =>
    if s.isReference then none
    else
      s.children[index]?.bind fun (slot, child) => placeFrom (slots ++ [slot]) (some s) child way

/-- The place to which a way leads from the root. -/
def place? (root : Schema) (way : List Nat) : Option Place :=
  placeFrom [] none root way

variable {s : Schema} {slots : List Slot} {above : Option Schema} {opened : List String}
  {listed : List (List Nat × Place)}

/-- The places in and below a node that a walk visits, with their ways, in the
order of the walk. -/
structure ListsPlaces (opened : List String) (slots : List Slot) (above : Option Schema)
    (s : Schema) (listed : List (List Nat × Place)) : Prop where
  ascending : listed.Pairwise fun first second => List.Lex (· < ·) first.1 second.1
  complete : ∀ way place, (way, place) ∈ listed ↔
    s.placeFrom slots above way = some place ∧ ¬place.Passed opened
  visits : ∀ start, visitsFrom opened s (start ++ String.join (slots.map Slot.text))
    (slots.getLastD .root) above = listed.map fun entry => entry.2.visit start

section Below

variable {children : List (Slot × Schema)} {below : Slot × Schema → List (List Nat × Place)}

/-- What is listed for some children, one after the other, where every way begins with
the number of its child. -/
def listBelow (children : List (Slot × Schema))
    (below : Slot × Schema → List (List Nat × Place)) : List (List Nat × Place) :=
  children.zipIdx.flatMap fun (entry, index) =>
    (below entry).map fun (way, place) => (index :: way, place)

theorem mem_listBelow {way : List Nat} {place : Place} :
    (way, place) ∈ listBelow children below ↔
      ∃ index rest entry, children[index]? = some entry ∧ (rest, place) ∈ below entry ∧
        way = index :: rest := by
  unfold listBelow
  constructor
  · intro member
    obtain ⟨⟨entry, index⟩, numbered, member⟩ := List.mem_flatMap.mp member
    obtain ⟨⟨rest, other⟩, listed, equal⟩ := List.mem_map.mp member
    cases equal
    exact ⟨index, rest, entry, List.mem_zipIdx_iff_getElem?.mp numbered, listed, rfl⟩
  · rintro ⟨index, rest, entry, found, listed, rfl⟩
    apply List.mem_flatMap.mpr
    exact ⟨(entry, index), List.mem_zipIdx_iff_getElem?.mpr found,
      List.mem_map.mpr ⟨(rest, place), listed, rfl⟩⟩

theorem pairwise_snd_lt_zipIdx {α : Type} (items : List α) :
    items.zipIdx.Pairwise fun first second => first.2 < second.2 := by
  have ascending : (items.zipIdx.map Prod.snd).Pairwise (· < ·) := by
    rw [List.zipIdx_map_snd]
    exact List.pairwise_lt_range'
  exact List.pairwise_map.mp ascending

theorem pairwise_listBelow
    (ascending : ∀ entry ∈ children,
      (below entry).Pairwise fun first second => List.Lex (· < ·) first.1 second.1) :
    (listBelow children below).Pairwise fun first second =>
      List.Lex (· < ·) first.1 second.1 := by
  unfold listBelow
  rw [List.pairwise_flatMap]
  constructor
  · rintro ⟨entry, index⟩ member
    rw [List.pairwise_map]
    apply (ascending entry (List.fst_mem_of_mem_zipIdx member)).imp
    intro first second before
    exact .cons before
  · apply (pairwise_snd_lt_zipIdx children).imp
    rintro ⟨entry, index⟩ ⟨entry', index'⟩ before first firstMember second secondMember
    obtain ⟨⟨way, place⟩, -, rfl⟩ := List.mem_map.mp firstMember
    obtain ⟨⟨way', place'⟩, -, rfl⟩ := List.mem_map.mp secondMember
    exact .rel before

theorem map_listBelow {β : Type} (f : Place → β) :
    (listBelow children below).map (fun entry => f entry.2) =
      children.flatMap fun child => (below child).map fun entry => f entry.2 := by
  conv_rhs => rw [← List.zipIdx_map_fst 0 children, List.flatMap_map]
  rw [listBelow, List.map_flatMap]
  apply List.flatMap_congr
  rintro ⟨child, index⟩ -
  rw [List.map_map]
  rfl

end Below

theorem listsPlaces_reference {target : String} (refers : s.referenceTarget = some target) :
    ListsPlaces opened slots above s
      (if opened.contains target then [] else [([], ⟨slots, s, above⟩)]) := by
  have isReference : s.isReference = true := by
    by_contra plain
    rw [referenceTarget_eq_none_iff.mpr (by simpa using plain)] at refers
    cases refers
  have passed : Place.Passed opened ⟨slots, s, above⟩ ↔ opened.contains target = true := by
    simp [Place.Passed, refers]
  refine ⟨?_, ?_, ?_⟩
  · split <;> simp
  · intro way place
    cases way with
    | nil =>
        by_cases isOpen : opened.contains target = true
        · rw [if_pos isOpen]
          simp only [placeFrom, Option.some.injEq, List.not_mem_nil, false_iff, not_and, not_not]
          rintro rfl
          exact passed.mpr isOpen
        · rw [if_neg isOpen]
          simp only [placeFrom, Option.some.injEq, List.mem_singleton, Prod.mk.injEq, true_and]
          constructor
          · rintro rfl
            exact ⟨rfl, mt passed.mp isOpen⟩
          · rintro ⟨rfl, -⟩
            rfl
    | cons index way =>
        split <;> simp [placeFrom, isReference]
  · intro start
    rw [visitsFrom_reference refers]
    split <;> rfl

/-- The places in and below a node that is no reference are the node itself and the
places of its children, one child after the other. -/
theorem listsPlaces_node (plain : s.referenceTarget = none)
    {below : Slot × Schema → List (List Nat × Place)}
    (lists : ∀ entry ∈ s.children,
      ListsPlaces opened (slots ++ [entry.1]) (some s) entry.2 (below entry)) :
    ListsPlaces opened slots above s
      (([], ⟨slots, s, above⟩) :: listBelow s.children below) := by
  have isNode : s.isReference = false := referenceTarget_eq_none_iff.mp plain
  refine ⟨?_, ?_, ?_⟩
  · rw [List.pairwise_cons]
    constructor
    · rintro ⟨way, place⟩ later
      obtain ⟨index, rest, -, -, -, rfl⟩ := mem_listBelow.mp later
      exact .nil
    · exact pairwise_listBelow fun entry member => (lists entry member).ascending
  · intro way place
    rw [List.mem_cons, mem_listBelow, Prod.mk.injEq]
    cases way with
    | nil =>
        have notPassed : ¬Place.Passed opened ⟨slots, s, above⟩ := by simp [Place.Passed, plain]
        simp only [placeFrom, Option.some.injEq, true_and, reduceCtorEq, and_false, exists_false,
          or_false]
        constructor
        · rintro rfl
          exact ⟨rfl, notPassed⟩
        · rintro ⟨rfl, -⟩
          rfl
    | cons index way =>
        simp only [placeFrom, isNode, Bool.false_eq_true, if_false, reduceCtorEq, false_and,
          false_or, List.cons.injEq, Option.bind_eq_some_iff]
        constructor
        · rintro ⟨index', way', entry, found, listed, rfl, rfl⟩
          have here := (lists entry (List.mem_of_getElem? found)).complete way place
          obtain ⟨leads, notPassed⟩ := here.mp listed
          exact ⟨⟨entry, found, leads⟩, notPassed⟩
        · rintro ⟨⟨entry, found, leads⟩, notPassed⟩
          have here := (lists entry (List.mem_of_getElem? found)).complete way place
          exact ⟨index, way, entry, found, here.mpr ⟨leads, notPassed⟩, rfl, rfl⟩
  · intro start
    rw [visitsFrom_node plain, List.map_cons, map_listBelow]
    congr 1
    apply List.flatMap_congr
    rintro ⟨slot, child⟩ member
    have path : start ++ String.join (slots.map Slot.text) ++ slot.text =
        start ++ String.join ((slots ++ [slot]).map Slot.text) := by
      simp [String.append_assoc]
    have here := (lists (slot, child) member).visits start
    rw [List.getLastD_concat] at here
    dsimp only
    rw [path, here]

theorem exists_listsPlaces (opened : List String) (slots : List Slot) (above : Option Schema)
    (s : Schema) : ∃ listed, ListsPlaces opened slots above s listed := by
  induction s using child_induction generalizing slots above with
  | step s ih =>
      cases refers : s.referenceTarget with
      | some target => exact ⟨_, listsPlaces_reference refers⟩
      | none =>
          -- Nothing is listed for what is no child, so that one function lists for all.
          have each : ∀ entry : Slot × Schema, ∃ listed, entry ∈ s.children →
              ListsPlaces opened (slots ++ [entry.1]) (some s) entry.2 listed := by
            intro entry
            by_cases member : entry ∈ s.children
            · have child := childOf_iff.mpr ⟨entry.1, member⟩
              obtain ⟨listed, lists⟩ := ih entry.2 child (slots ++ [entry.1]) (some s)
              exact ⟨listed, fun _ => lists⟩
            · exact ⟨[], fun listed => absurd listed member⟩
          choose below lists using each
          exact ⟨_, listsPlaces_node refers lists⟩

theorem ListsPlaces.mem_iff {root : Schema} (lists : ListsPlaces [] [] none root listed)
    {way : List Nat} {place : Place} : (way, place) ∈ listed ↔ root.place? way = some place := by
  rw [lists.complete, place?]
  simp [Place.Passed]

theorem ListsPlaces.walk_eq {root : Schema} (lists : ListsPlaces opened [] none root listed)
    (start : String) : root.walk start opened = listed.map fun entry => entry.2.visit start := by
  have fromRoot := lists.visits start
  rwa [List.map_nil, String.join_nil, String.append_empty] at fromRoot

/-- A walk meets the places of a schema in ascending order of their ways: a node
before what stands below it, and what stands below one child before the next child.
Every place is met once, unless it holds a reference to a name that was open at the
start.  What the visitor gathers comes from these visits alone, and the open names
are the same again at the end. -/
theorem walkWith_preorder (root : Schema) (start : String) (opened : List String) :
    ∃ listed : List (List Nat × Place),
      (listed.Pairwise fun first second => List.Lex (· < ·) first.1 second.1) ∧
      (∀ way place, (way, place) ∈ listed ↔
        root.place? way = some place ∧ ¬place.Passed opened) ∧
      (root.walk start opened = listed.map fun entry => entry.2.visit start) ∧
      ∀ (σ : Type) (visit : σ → Visit → σ) (gathered : σ),
        walkWith visit root start ⟨opened, gathered⟩ =
          ⟨opened, (listed.map fun entry => entry.2.visit start).foldl visit gathered⟩ := by
  obtain ⟨listed, lists⟩ := exists_listsPlaces opened [] none root
  have visits : root.walk start opened = listed.map fun entry => entry.2.visit start := by
    have fromRoot := lists.visits start
    rwa [List.map_nil, String.join_nil, String.append_empty] at fromRoot
  refine ⟨listed, lists.ascending, lists.complete, visits, ?_⟩
  intro σ visit gathered
  rw [walkWith, walkNode_eq, ← visits]
  rfl

end Schema

end ApiReview
