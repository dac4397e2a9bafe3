import ApiReview.Review.Walk
import Mathlib.Logic.Relation

/-!
# The nodes of a walk

A node of a schema stands in one of five kinds of places: properties, items and
the members of the three composition branches.  The walk visits a node and goes
on to what stands below it, except below a reference.  With no name open, the
visited nodes are those that are reached from the root without passing through a
reference.
-/

namespace ApiReview.Schema

open Relation (ReflTransGen)

/-- One schema stands directly below another one. -/
inductive ChildOf (parent : Schema) : Schema → Prop where
  | property {name : String} {child : Schema} (member : (name, child) ∈ parent.properties) :
      ChildOf parent child
  | items {child : Schema} (member : parent.items = some child) : ChildOf parent child
  | allOf {child : Schema} (member : child ∈ parent.allOf) : ChildOf parent child
  | oneOf {child : Schema} (member : child ∈ parent.oneOf) : ChildOf parent child
  | anyOf {child : Schema} (member : child ∈ parent.anyOf) : ChildOf parent child

/-- A schema stands somewhere below another one, or is that schema. -/
def Contains (body node : Schema) : Prop :=
  ReflTransGen ChildOf body node

/-- The walk goes on from a node to a child: references are leaves. -/
def Descends (parent child : Schema) : Prop :=
  parent.isReference = false ∧ parent.ChildOf child

/-- A node is reached from a body without passing through a reference. -/
def Reaches (body node : Schema) : Prop :=
  ReflTransGen Descends body node

/-- What stands directly below a schema, with its slot, in the order of the
walk. -/
def children (s : Schema) : List (Slot × Schema) :=
  s.properties.map (fun (name, child) => (.property name, child)) ++
    s.items.toList.map (fun child => (.items, child)) ++
    s.allOf.zipIdx.map (fun (child, index) => (.allOf index, child)) ++
    s.oneOf.zipIdx.map (fun (child, index) => (.oneOf index, child)) ++
    s.anyOf.zipIdx.map (fun (child, index) => (.anyOf index, child))

variable {s parent child node : Schema}

theorem exists_mem_zipIdx {α : Type} {items : List α} {item : α} :
    (∃ index, (item, index) ∈ items.zipIdx) ↔ item ∈ items := by
  rw [List.mem_iff_getElem?]
  exact exists_congr fun _ => List.mem_zipIdx_iff_getElem?

theorem childOf_iff : parent.ChildOf child ↔ ∃ slot, (slot, child) ∈ parent.children := by
  simp only [children, List.mem_append, List.mem_map, Option.mem_toList, Prod.mk.injEq,
    Prod.exists, exists_or]
  constructor
  · rintro (member | member | member | member | member)
    · exact .inl (.inl (.inl (.inl ⟨_, _, _, member, rfl, rfl⟩)))
    · exact .inl (.inl (.inl (.inr ⟨_, _, member, rfl, rfl⟩)))
    · obtain ⟨index, member⟩ := exists_mem_zipIdx.mpr member
      exact .inl (.inl (.inr ⟨_, _, _, member, rfl, rfl⟩))
    · obtain ⟨index, member⟩ := exists_mem_zipIdx.mpr member
      exact .inl (.inr ⟨_, _, _, member, rfl, rfl⟩)
    · obtain ⟨index, member⟩ := exists_mem_zipIdx.mpr member
      exact .inr ⟨_, _, _, member, rfl, rfl⟩
  · rintro ((((⟨_, _, _, member, -, rfl⟩ | ⟨_, _, member, -, rfl⟩) |
      ⟨_, _, _, member, -, rfl⟩) | ⟨_, _, _, member, -, rfl⟩) | ⟨_, _, _, member, -, rfl⟩)
    · exact .property member
    · exact .items member
    · exact .allOf (exists_mem_zipIdx.mp ⟨_, member⟩)
    · exact .oneOf (exists_mem_zipIdx.mp ⟨_, member⟩)
    · exact .anyOf (exists_mem_zipIdx.mp ⟨_, member⟩)

theorem contains_iff :
    Contains s node ↔ node = s ∨ ∃ entry ∈ s.children, Contains entry.2 node := by
  unfold Contains
  rw [ReflTransGen.cases_head_iff, eq_comm]
  refine or_congr Iff.rfl ?_
  constructor
  · rintro ⟨child, below, contains⟩
    obtain ⟨slot, member⟩ := childOf_iff.mp below
    exact ⟨(slot, child), member, contains⟩
  · rintro ⟨⟨slot, child⟩, member, contains⟩
    exact ⟨child, childOf_iff.mpr ⟨slot, member⟩, contains⟩

theorem ChildOf.sizeOf_lt (below : parent.ChildOf child) : sizeOf child < sizeOf parent := by
  obtain ⟨keywords, properties, items, allOf, oneOf, anyOf, additional⟩ := parent
  rw [Schema.mk.sizeOf_spec]
  have ofMember : ∀ members : List Schema, child ∈ members → sizeOf child < sizeOf members :=
    fun members member => List.sizeOf_lt_of_mem member
  cases below with
  | @property name child member =>
      have entry : sizeOf (name, child) < sizeOf properties := List.sizeOf_lt_of_mem member
      rw [Prod.mk.sizeOf_spec] at entry
      omega
  | items member =>
      cases member
      rw [Option.some.sizeOf_spec]
      omega
  | allOf member =>
      have := ofMember allOf member
      omega
  | oneOf member =>
      have := ofMember oneOf member
      omega
  | anyOf member =>
      have := ofMember anyOf member
      omega

/-- What holds of a schema whenever it holds of all schemas directly below it
holds of every schema. -/
theorem child_induction {motive : Schema → Prop}
    (step : ∀ s, (∀ child, s.ChildOf child → motive child) → motive s) (s : Schema) : motive s :=
  step s fun child (below : s.ChildOf child) =>
    have := below.sizeOf_lt
    child_induction step child
termination_by sizeOf s

section Visits

variable {σ : Type} {visit : σ → Visit → σ} {w : Walking σ} {opened : List String}
  {path : String} {slot : Slot} {above : Option Schema}

/-- Walk over what stands directly below a node, child after child. -/
def walkChildren (visit : σ → Visit → σ) (parent : Schema) (path : String)
    (children : List (Slot × Schema)) (w : Walking σ) : Walking σ :=
  children.foldl
    (fun w (slot, child) => walkNode visit child (path ++ slot.text) slot (some parent) w) w

theorem walkProperties_eq (properties : List (String × Schema)) :
    walkProperties visit parent path properties w =
      walkChildren visit parent path
        (properties.map fun (name, child) => (Slot.property name, child)) w := by
  induction properties generalizing w with
  | nil => rfl
  | cons entry rest ih =>
      rw [walkProperties, ih]
      rfl

theorem walkItems_eq (items : Option Schema) :
    walkItems visit parent path items w =
      walkChildren visit parent path (items.toList.map fun child => (Slot.items, child)) w := by
  cases items <;> rfl

theorem walkMembers_eq (kind : Nat → Slot) (index : Nat) (members : List Schema) :
    walkMembers visit parent path kind index members w =
      walkChildren visit parent path
        ((members.zipIdx index).map fun (child, index) => (kind index, child)) w := by
  induction members generalizing index w with
  | nil => rfl
  | cons member rest ih =>
      rw [walkMembers, ih]
      rfl

theorem walkNode_reference {target : String} (refers : s.referenceTarget = some target) :
    walkNode visit s path slot above w =
      if w.opened.contains target then w else w.meet visit ⟨s, path, slot, above⟩ := by
  obtain ⟨keywords, properties, items, allOf, oneOf, anyOf, additional⟩ := s
  rw [walkNode, refers]
  exact Walking.meetReference_eq

theorem walkNode_node (plain : s.referenceTarget = none) :
    walkNode visit s path slot above w =
      walkChildren visit s path s.children (w.meet visit ⟨s, path, slot, above⟩) := by
  obtain ⟨keywords, properties, items, allOf, oneOf, anyOf, additional⟩ := s
  rw [walkNode, plain]
  simp only [walkProperties_eq, walkItems_eq, walkMembers_eq, walkChildren, children,
    List.foldl_append]

theorem walkChildren_eq {children : List (Slot × Schema)}
    (each : ∀ entry ∈ children, ∀ w : Walking σ,
      walkNode visit entry.2 (path ++ entry.1.text) entry.1 (some parent) w =
        ⟨w.opened, (visitsFrom w.opened entry.2 (path ++ entry.1.text) entry.1
          (some parent)).foldl visit w.gathered⟩) :
    walkChildren visit parent path children w =
      ⟨w.opened, (children.flatMap fun (slot, child) =>
        visitsFrom w.opened child (path ++ slot.text) slot (some parent)).foldl visit
          w.gathered⟩ := by
  induction children generalizing w with
  | nil => rfl
  | cons entry rest ih =>
      obtain ⟨first, others⟩ := List.forall_mem_cons.mp each
      change walkChildren visit parent path rest (walkNode visit entry.2 _ _ _ w) = _
      rw [first, ih others, List.flatMap_cons, List.foldl_append]

/-- A walk leaves the open names as they were, and its visitor meets the visits one
after the other. -/
theorem walkNode_eq (visit : σ → Visit → σ) (s : Schema) (path : String) (slot : Slot)
    (above : Option Schema) (w : Walking σ) :
    walkNode visit s path slot above w =
      ⟨w.opened, (visitsFrom w.opened s path slot above).foldl visit w.gathered⟩ := by
  induction s using child_induction generalizing σ path slot above w with
  | step s ih =>
      unfold visitsFrom
      cases refers : s.referenceTarget with
      | some target =>
          rw [walkNode_reference refers, walkNode_reference refers]
          by_cases isOpen : w.opened.contains target = true
          · rw [if_pos isOpen, if_pos isOpen]
            rfl
          · rw [if_neg isOpen, if_neg isOpen]
            rfl
      | none =>
          have below : ∀ {τ : Type} (visit : τ → Visit → τ), ∀ entry ∈ s.children,
              ∀ w : Walking τ,
              walkNode visit entry.2 (path ++ entry.1.text) entry.1 (some s) w =
                ⟨w.opened, (visitsFrom w.opened entry.2 (path ++ entry.1.text) entry.1
                  (some s)).foldl visit w.gathered⟩ := by
            intro τ visit entry member w
            exact ih entry.2 (childOf_iff.mpr ⟨entry.1, member⟩) visit _ _ _ w
          rw [walkNode_node refers, walkNode_node refers, walkChildren_eq (below visit),
            walkChildren_eq (below _), List.foldl_flip_cons_eq_append]
          simp [Walking.meet]

/-- A reference is visited by itself, unless its target is open. -/
theorem visitsFrom_reference {target : String} (refers : s.referenceTarget = some target) :
    visitsFrom opened s path slot above =
      if opened.contains target then [] else [⟨s, path, slot, above⟩] := by
  rw [visitsFrom, walkNode_reference refers]
  by_cases isOpen : opened.contains target = true
  · rw [if_pos isOpen, if_pos isOpen]
    rfl
  · rw [if_neg isOpen, if_neg isOpen]
    rfl

/-- Any other node is visited before what stands below it. -/
theorem visitsFrom_node (plain : s.referenceTarget = none) :
    visitsFrom opened s path slot above =
      ⟨s, path, slot, above⟩ :: s.children.flatMap fun (slot, child) =>
        visitsFrom opened child (path ++ slot.text) slot (some s) := by
  have below : ∀ entry ∈ s.children, ∀ w : Walking (List Visit),
      walkNode (fun visits v => v :: visits) entry.2 (path ++ entry.1.text) entry.1 (some s) w =
        ⟨w.opened, (visitsFrom w.opened entry.2 (path ++ entry.1.text) entry.1 (some s)).foldl
          (fun visits v => v :: visits) w.gathered⟩ := fun entry _ w => walkNode_eq _ _ _ _ _ w
  rw [visitsFrom, walkNode_node plain, walkChildren_eq below, List.foldl_flip_cons_eq_append]
  simp [Walking.meet]

theorem referenceTarget_eq_none_iff : s.referenceTarget = none ↔ s.isReference = false := by
  cases reference : s.reference <;> simp [referenceTarget, isReference, reference]

/-- With no name open, the visited nodes are those that the walk reaches. -/
theorem exists_mem_visitsFrom_iff :
    (∃ visit ∈ visitsFrom [] s path slot above, visit.schema = node) ↔ Reaches s node := by
  -- no name gets open on the way down, so that one list of open names serves all levels
  induction s using child_induction generalizing path slot above with
  | step s ih =>
      unfold Reaches
      rw [ReflTransGen.cases_head_iff]
      cases refers : s.referenceTarget with
      | some target =>
          have isReference : s.isReference ≠ false := fun plain => by
            rw [referenceTarget_eq_none_iff.mpr plain] at refers
            cases refers
          simp [visitsFrom_reference refers, Descends, isReference]
      | none =>
          have plain := referenceTarget_eq_none_iff.mp refers
          rw [visitsFrom_node refers]
          simp only [List.mem_cons, List.mem_flatMap, exists_eq_or_imp]
          refine or_congr Iff.rfl ?_
          constructor
          · rintro ⟨visit, ⟨⟨slot, child⟩, member, visited⟩, same⟩
            have below := childOf_iff.mpr ⟨slot, member⟩
            exact ⟨child, ⟨plain, below⟩, (ih child below).mp ⟨visit, visited, same⟩⟩
          · rintro ⟨child, ⟨-, below⟩, reaches⟩
            obtain ⟨slot, member⟩ := childOf_iff.mp below
            obtain ⟨visit, visited, same⟩ := (ih child below).mpr reaches
            exact ⟨visit, ⟨(slot, child), member, visited⟩, same⟩

theorem exists_mem_walk_iff :
    (∃ visit ∈ s.walk path [], visit.schema = node) ↔ Reaches s node :=
  exists_mem_visitsFrom_iff

end Visits

end ApiReview.Schema
