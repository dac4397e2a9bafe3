import ApiReview.Proofs.FirstOccurrences
import ApiReview.Proofs.References.Reachability
import Mathlib.Data.List.Pairwise

/-!
# Strongly connected components

The listed components are the classes of nodes that reach each other, without
the classes of one node that has no edge to itself.  A component lists its nodes
in their order, and different components share no node.

So they are what is left of any partition into strongly connected components when
those without a loop are dropped, the names of each one are put into the order of
the nodes, and the components into the order of their first names.
-/

namespace ApiReview

theorem pairwise_mergeSort_key {α : Type} (key : α → Nat) (items : List α) :
    (items.mergeSort fun a b => key a ≤ key b).Pairwise fun a b => key a ≤ key b := by
  have sorted : (items.mergeSort fun a b => key a ≤ key b).Pairwise
      fun a b => decide (key a ≤ key b) = true := by
    refine List.pairwise_mergeSort (fun a b c => ?_) (fun a b => ?_) items
    · simpa using Nat.le_trans
    · simpa using Nat.le_total _ _
  exact sorted.imp of_decide_eq_true

theorem pairwise_idxOf_lt {items : List String} (distinct : items.Nodup) :
    items.Pairwise fun a b => items.idxOf a < items.idxOf b := by
  refine List.pairwise_iff_getElem.mpr fun i j iBound jBound before => ?_
  rwa [distinct.idxOf_getElem, distinct.idxOf_getElem]

namespace ReferenceGraph

open Relation (ReflTransGen TransGen reflTransGen_iff_eq_or_transGen)

/-- Two names reach each other over one edge or more. -/
def Connected (g : ReferenceGraph) (a b : String) : Prop :=
  TransGen g.Edge a b ∧ TransGen g.Edge b a

/-- The nodes that a node reaches and is reached from, in their order. -/
def componentOf (g : ReferenceGraph) (name : String) : List String :=
  g.nodes.filter fun other =>
    (g.reachable name).contains other && (g.reachable other).contains name

/-- The nodes on closed walks, in their order. -/
def looping (g : ReferenceGraph) : List String :=
  g.nodes.filter fun name => (g.reachable name).contains name

variable {g : ReferenceGraph} {a b c name other last : String} {component names later : List String}

theorem Connected.symm (connected : g.Connected a b) : g.Connected b a :=
  And.symm connected

theorem Connected.trans (first : g.Connected a b) (second : g.Connected b c) :
    g.Connected a c :=
  ⟨first.1.trans second.1, second.2.trans first.2⟩

theorem mem_looping (wellFormed : g.WellFormed) :
    name ∈ g.looping ↔ name ∈ g.nodes ∧ TransGen g.Edge name name := by
  rw [looping, List.mem_filter, List.contains_iff_mem, mem_reachable wellFormed]

theorem pairwise_looping (wellFormed : g.WellFormed) :
    g.looping.Pairwise fun a b => g.nodes.idxOf a < g.nodes.idxOf b :=
  (pairwise_idxOf_lt wellFormed.distinct).filter _

theorem mem_componentOf (wellFormed : g.WellFormed) :
    other ∈ g.componentOf name ↔ other ∈ g.nodes ∧ g.Connected name other := by
  simp [componentOf, Connected, mem_reachable wellFormed]

theorem mem_componentOf_self (wellFormed : g.WellFormed) (walks : name ∈ g.looping) :
    name ∈ g.componentOf name := by
  obtain ⟨node, closes⟩ := (mem_looping wellFormed).mp walks
  exact (mem_componentOf wellFormed).mpr ⟨node, closes, closes⟩

theorem sublist_componentOf : (g.componentOf name).Sublist g.nodes :=
  List.filter_sublist

theorem nodup_componentOf (wellFormed : g.WellFormed) : (g.componentOf name).Nodup :=
  wellFormed.distinct.filter _

theorem componentOf_congr (wellFormed : g.WellFormed) (connected : g.Connected a b) :
    g.componentOf a = g.componentOf b := by
  refine List.filter_congr fun other _ => ?_
  have same : g.Connected a other ↔ g.Connected b other :=
    ⟨connected.symm.trans, connected.trans⟩
  rw [Bool.eq_iff_iff]
  simpa [Connected, mem_reachable wellFormed] using same

/-- A component is listed once for each class of nodes on a closed walk. -/
theorem components_eq (wellFormed : g.WellFormed) :
    g.components = firstOccurrences (g.looping.map g.componentOf) := by
  unfold components firstOccurrences looping
  simp only [List.filter_map, List.map_map, List.filterMap_map]
  congr 1
  refine List.map_congr_left fun name _ => ?_
  simp only [Function.comp_def, componentOf, List.filterMap_filter]
  rw [← List.filterMap_eq_filter]
  refine List.filterMap_congr fun other _ => ?_
  -- a node that is connected with another one lies on a closed walk itself
  have onWalk : other ∈ g.reachable name → name ∈ g.reachable other →
      other ∈ g.reachable other := by
    simp only [mem_reachable wellFormed]
    exact fun there back => back.trans there
  simpa [Option.guard] using fun off there back => off (onWalk there back)

theorem mem_components (wellFormed : g.WellFormed) :
    component ∈ g.components ↔
      ∃ name ∈ g.nodes, TransGen g.Edge name name ∧ component = g.componentOf name := by
  simp only [components_eq wellFormed, mem_firstOccurrences, List.mem_map, mem_looping wellFormed]
  constructor
  · rintro ⟨name, ⟨node, walk⟩, rfl⟩
    exact ⟨name, node, walk, rfl⟩
  · rintro ⟨name, node, walk, rfl⟩
    exact ⟨name, ⟨node, walk⟩, rfl⟩

theorem nodup_components (wellFormed : g.WellFormed) : g.components.Nodup := by
  rw [components_eq wellFormed]
  exact nodup_firstOccurrences _

theorem components_eq_of_mem (wellFormed : g.WellFormed) {one two : List String}
    (oneListed : one ∈ g.components) (twoListed : two ∈ g.components)
    (inOne : name ∈ one) (inTwo : name ∈ two) : one = two := by
  obtain ⟨a, -, -, rfl⟩ := (mem_components wellFormed).mp oneListed
  obtain ⟨b, -, -, rfl⟩ := (mem_components wellFormed).mp twoListed
  have first := ((mem_componentOf wellFormed).mp inOne).2
  have second := ((mem_componentOf wellFormed).mp inTwo).2
  exact componentOf_congr wellFormed (first.trans second.symm)

theorem sublist_nodes_of_mem_components (wellFormed : g.WellFormed)
    (listed : component ∈ g.components) : component.Sublist g.nodes := by
  obtain ⟨name, -, -, rfl⟩ := (mem_components wellFormed).mp listed
  exact sublist_componentOf

theorem exists_mem_of_mem_components (wellFormed : g.WellFormed)
    (listed : component ∈ g.components) : ∃ name, name ∈ component := by
  obtain ⟨name, node, closes, rfl⟩ := (mem_components wellFormed).mp listed
  exact ⟨name, (mem_componentOf wellFormed).mpr ⟨node, closes, closes⟩⟩

section FirstNames

/-- The place of the first name of a component. -/
def firstPlace (g : ReferenceGraph) (part : List String) : Nat :=
  g.nodes.idxOf (part.headD "")

theorem exists_mem_firstPlace (g : ReferenceGraph) (member : name ∈ component) :
    ∃ first ∈ component, g.firstPlace component = g.nodes.idxOf first := by
  cases component with
  | nil => cases member
  | cons first rest => exact ⟨first, List.mem_cons_self, rfl⟩

theorem firstPlace_le (wellFormed : g.WellFormed) (sublist : component.Sublist g.nodes)
    (member : name ∈ component) : g.firstPlace component ≤ g.nodes.idxOf name := by
  have ordered := (pairwise_idxOf_lt wellFormed.distinct).sublist sublist
  cases component with
  | nil => cases member
  | cons first rest =>
      rcases List.mem_cons.mp member with rfl | later
      · exact Nat.le_refl _
      · exact Nat.le_of_lt (List.rel_of_pairwise_cons ordered later)

/-- A node whose component is none of those before it is the first one of its component. -/
theorem firstPlace_componentOf (wellFormed : g.WellFormed)
    (split : g.looping = names ++ [last] ++ later)
    (fresh : g.componentOf last ∉ names.map g.componentOf) :
    g.firstPlace (g.componentOf last) = g.nodes.idxOf last := by
  have lastMember : last ∈ g.componentOf last :=
    mem_componentOf_self wellFormed (by simp [split])
  obtain ⟨first, firstMember, place⟩ := exists_mem_firstPlace g lastMember
  obtain ⟨node, connected⟩ := (mem_componentOf wellFormed).mp firstMember
  have walks := (mem_looping wellFormed).mpr ⟨node, connected.2.trans connected.1⟩
  have lower := firstPlace_le wellFormed sublist_componentOf lastMember
  have ordered := pairwise_looping wellFormed
  rw [split] at walks ordered
  rcases List.mem_append.mp walks with upToLast | behind
  · rcases List.mem_append.mp upToLast with before | isLast
    · have seen := List.mem_map_of_mem (f := g.componentOf) before
      rw [← componentOf_congr wellFormed connected] at seen
      exact absurd seen fresh
    · rw [place, List.mem_singleton.mp isLast]
  · have higher := (List.pairwise_append.mp ordered).2.2 last (by simp) first behind
    omega

/-- Along the nodes on closed walks, the components come in the order of their first names. -/
theorem pairwise_firstPlace_map (wellFormed : g.WellFormed) (split : g.looping = names ++ later) :
    (firstOccurrences (names.map g.componentOf)).Pairwise
      fun one two => g.firstPlace one < g.firstPlace two := by
  induction names using List.reverseRecOn generalizing later with
  | nil => exact List.Pairwise.nil
  | append_singleton names last ih =>
      have earlier := ih (split.trans (List.append_assoc names [last] later))
      rw [List.map_append, List.map_singleton, firstOccurrences_concat]
      split_ifs with known
      · exact earlier
      refine List.pairwise_append.mpr ⟨earlier, List.pairwise_singleton _ _, ?_⟩
      intro one found two isLast
      obtain ⟨name, member, rfl⟩ := List.mem_map.mp (mem_firstOccurrences.mp found)
      have walks : name ∈ g.looping := by simp [split, member]
      have lower := firstPlace_le wellFormed sublist_componentOf
        (mem_componentOf_self wellFormed walks)
      have ordered := pairwise_looping wellFormed
      rw [split] at ordered
      have before := (List.pairwise_append.mp (List.pairwise_append.mp ordered).1).2.2
        name member last (by simp)
      rw [List.mem_singleton.mp isLast,
        firstPlace_componentOf wellFormed split (by simpa using known)]
      omega

theorem pairwise_components (wellFormed : g.WellFormed) :
    g.components.Pairwise fun one two => g.firstPlace one < g.firstPlace two := by
  rw [components_eq wellFormed]
  exact pairwise_firstPlace_map wellFormed (List.append_nil _).symm

end FirstNames

/-- The strongly connected components in whatever order: each node is in one of them, once,
together with the names that it reaches and is reached from. -/
structure StrongPartition (g : ReferenceGraph) (parts : List (List String)) : Prop where
  distinct : parts.flatten.Nodup
  filled : [] ∉ parts
  covers : ∀ name, name ∈ parts.flatten ↔ name ∈ g.nodes
  together : ∀ part ∈ parts, ∀ a ∈ part, ∀ b,
    b ∈ part ↔ ReflTransGen g.Edge a b ∧ ReflTransGen g.Edge b a

/-- Has a component more names than one, or one that refers to itself? -/
def holdsLoop (g : ReferenceGraph) : List String → Bool
  | [] => false
  | first :: rest => !rest.isEmpty || (g.targets first).contains first

/-- The names of a component in the order of the nodes. -/
def sortNames (g : ReferenceGraph) (part : List String) : List String :=
  part.mergeSort fun a b => g.nodes.idxOf a ≤ g.nodes.idxOf b

/-- Components in the order of their first names. -/
def sortParts (g : ReferenceGraph) (parts : List (List String)) : List (List String) :=
  parts.mergeSort fun one two => g.firstPlace one ≤ g.firstPlace two

namespace StrongPartition

variable {parts : List (List String)} {part one two : List String}

theorem eq_of_mem (partition : g.StrongPartition parts) (oneListed : one ∈ parts)
    (twoListed : two ∈ parts) (inOne : name ∈ one) (inTwo : name ∈ two) : one = two := by
  obtain ⟨-, apart⟩ := List.nodup_flatten.mp partition.distinct
  have disjoint : ∀ one ∈ parts, ∀ two ∈ parts, name ∈ one → name ∈ two → one = two :=
    List.Pairwise.forall_of_forall_of_flip (fun _ _ _ _ => rfl)
      (apart.imp fun disjoint inOne inTwo => (disjoint inOne inTwo).elim)
      (apart.imp fun disjoint inTwo inOne => (disjoint inOne inTwo).elim)
  exact disjoint one oneListed two twoListed inOne inTwo

theorem exists_mem (partition : g.StrongPartition parts) (listed : part ∈ parts) :
    ∃ name, name ∈ part := by
  refine List.exists_mem_of_ne_nil part ?_
  rintro rfl
  exact partition.filled listed

theorem nodup (partition : g.StrongPartition parts) : parts.Nodup := by
  obtain ⟨-, apart⟩ := List.nodup_flatten.mp partition.distinct
  refine apart.imp_of_mem fun oneListed _ disjoint => ?_
  rintro rfl
  obtain ⟨name, member⟩ := partition.exists_mem oneListed
  exact disjoint member member

theorem nodup_part (partition : g.StrongPartition parts) (listed : part ∈ parts) : part.Nodup :=
  (List.nodup_flatten.mp partition.distinct).1 part listed

theorem mem_nodes (partition : g.StrongPartition parts) (listed : part ∈ parts)
    (member : name ∈ part) : name ∈ g.nodes :=
  (partition.covers name).mp (List.mem_flatten_of_mem listed member)

theorem closes_of_ne (partition : g.StrongPartition parts) (listed : part ∈ parts)
    (member : name ∈ part) (otherMember : other ∈ part) (differ : other ≠ name) :
    TransGen g.Edge name name := by
  obtain ⟨there, back⟩ := (partition.together part listed name member other).mp otherMember
  exact ((reflTransGen_iff_eq_or_transGen.mp there).resolve_left differ).trans_left back

/-- A component holds a loop exactly when each of its names lies on a closed walk. -/
theorem holdsLoop_iff (partition : g.StrongPartition parts) (listed : part ∈ parts)
    (member : name ∈ part) : g.holdsLoop part = true ↔ TransGen g.Edge name name := by
  cases part with
  | nil => cases member
  | cons first rest =>
      have linked := partition.together _ listed name member
      constructor
      · intro holds
        rcases Bool.or_eq_true_iff.mp holds with more | itself
        · obtain ⟨second, later, rfl⟩ := List.exists_cons_of_ne_nil
            (by simpa using more : rest ≠ [])
          have differ : first ≠ second := by
            rintro rfl
            simpa using partition.nodup_part listed
          by_cases same : first = name
          · exact partition.closes_of_ne listed member (by simp) (same ▸ differ.symm)
          · exact partition.closes_of_ne listed member List.mem_cons_self same
        · obtain ⟨there, back⟩ := (linked first).mp List.mem_cons_self
          have edge : g.Edge first first := by simpa [Edge] using itself
          exact (TransGen.trans_right there (.single edge)).trans_left back
      · intro closes
        cases rest with
        | cons second rest => rfl
        | nil =>
            -- the walk comes back through names of the component, and it has but one
            obtain ⟨next, edge, back⟩ := TransGen.head'_iff.mp closes
            have nextMember := (linked next).mpr ⟨.single edge, back⟩
            rw [List.mem_singleton.mp nextMember, List.mem_singleton.mp member] at edge
            simpa [holdsLoop, Edge] using edge

theorem mem_iff_connected (partition : g.StrongPartition parts) (listed : part ∈ parts)
    (member : name ∈ part) (closes : TransGen g.Edge name name) :
    other ∈ part ↔ g.Connected name other := by
  rw [partition.together part listed name member]
  constructor
  · rintro ⟨there, back⟩
    exact ⟨closes.trans_left there, TransGen.trans_right back closes⟩
  · rintro ⟨there, back⟩
    exact ⟨there.to_reflTransGen, back.to_reflTransGen⟩

theorem sortNames_eq (partition : g.StrongPartition parts) (wellFormed : g.WellFormed)
    (listed : part ∈ parts) (member : name ∈ part) (closes : TransGen g.Edge name name) :
    g.sortNames part = g.componentOf name := by
  have same : (g.sortNames part).Perm (g.componentOf name) := by
    refine (List.mergeSort_perm part _).trans ((List.perm_ext_iff_of_nodup
      (partition.nodup_part listed) (nodup_componentOf wellFormed)).mpr ?_)
    intro other
    rw [mem_componentOf wellFormed, ← partition.mem_iff_connected listed member closes]
    exact ⟨fun inPart => ⟨partition.mem_nodes listed inPart, inPart⟩, And.right⟩
  have sorted : (g.sortNames part).Pairwise fun a b => g.nodes.idxOf a ≤ g.nodes.idxOf b :=
    pairwise_mergeSort_key g.nodes.idxOf part
  have ascending : (g.componentOf name).Pairwise fun a b => g.nodes.idxOf a ≤ g.nodes.idxOf b :=
    ((pairwise_idxOf_lt wellFormed.distinct).filter _).imp Nat.le_of_lt
  refine same.eq_of_pairwise ?_ sorted ascending
  intro a b aMember _ before behind
  have node : a ∈ g.nodes := sublist_componentOf.subset (same.mem_iff.mp aMember)
  exact (List.idxOf_inj node).mp (Nat.le_antisymm before behind)

theorem mem_components_iff (partition : g.StrongPartition parts) (wellFormed : g.WellFormed) :
    component ∈ g.components ↔ component ∈ (parts.filter g.holdsLoop).map g.sortNames := by
  rw [mem_components wellFormed, List.mem_map]
  constructor
  · rintro ⟨name, node, closes, rfl⟩
    obtain ⟨part, listed, member⟩ := List.mem_flatten.mp ((partition.covers name).mpr node)
    have holds := (partition.holdsLoop_iff listed member).mpr closes
    exact ⟨part, List.mem_filter.mpr ⟨listed, holds⟩,
      partition.sortNames_eq wellFormed listed member closes⟩
  · rintro ⟨part, kept, rfl⟩
    obtain ⟨listed, holds⟩ := List.mem_filter.mp kept
    obtain ⟨name, member⟩ := partition.exists_mem listed
    have closes := (partition.holdsLoop_iff listed member).mp holds
    exact ⟨name, partition.mem_nodes listed member, closes,
      partition.sortNames_eq wellFormed listed member closes⟩

theorem nodup_map_sortNames (partition : g.StrongPartition parts) :
    ((parts.filter g.holdsLoop).map g.sortNames).Nodup := by
  refine (partition.nodup.filter _).map_on ?_
  intro one oneKept two twoKept same
  have oneListed := (List.mem_filter.mp oneKept).1
  have twoListed := (List.mem_filter.mp twoKept).1
  obtain ⟨name, inOne⟩ := partition.exists_mem oneListed
  have inSorted : name ∈ g.sortNames two := same ▸ List.mem_mergeSort.mpr inOne
  exact partition.eq_of_mem oneListed twoListed inOne (List.mem_mergeSort.mp inSorted)

end StrongPartition

/-- The listed components are the strongly connected ones that hold a loop, sorted by
the order of the nodes: first the names in each of them, then the components. -/
theorem components_eq_sorted (wellFormed : g.WellFormed) {parts : List (List String)}
    (partition : g.StrongPartition parts) :
    g.components = g.sortParts ((parts.filter g.holdsLoop).map g.sortNames) := by
  have same : g.components.Perm (g.sortParts ((parts.filter g.holdsLoop).map g.sortNames)) := by
    refine .trans ?_ (List.mergeSort_perm _ _).symm
    exact (List.perm_ext_iff_of_nodup (nodup_components wellFormed)
      partition.nodup_map_sortNames).mpr fun _ => partition.mem_components_iff wellFormed
  refine same.eq_of_pairwise ?_ ((pairwise_components wellFormed).imp Nat.le_of_lt)
    (pairwise_mergeSort_key g.firstPlace _)
  -- components whose first names stand in one place share that name
  intro one two oneListed twoSorted before behind
  have twoListed := same.mem_iff.mpr twoSorted
  obtain ⟨_, inOne⟩ := exists_mem_of_mem_components wellFormed oneListed
  obtain ⟨_, inTwo⟩ := exists_mem_of_mem_components wellFormed twoListed
  obtain ⟨first, firstInOne, place⟩ := exists_mem_firstPlace g inOne
  obtain ⟨second, secondInTwo, otherPlace⟩ := exists_mem_firstPlace g inTwo
  have node : first ∈ g.nodes :=
    (sublist_nodes_of_mem_components wellFormed oneListed).subset firstInOne
  have equal : first = second := (List.idxOf_inj node).mp (by omega)
  exact components_eq_of_mem wellFormed oneListed twoListed firstInOne (equal ▸ secondInTwo)

section Existence

/-- Does a walk, maybe the empty one, lead from one node to the other and one back? -/
def leadsAndReturns (g : ReferenceGraph) (a b : String) : Bool :=
  b = a || (g.reachable a).contains b && (g.reachable b).contains a

/-- The strongly connected components in the order of their first nodes, those without
a loop among them. -/
def strongComponents (g : ReferenceGraph) : List (List String) :=
  firstOccurrences (g.nodes.map fun name => g.nodes.filter (g.leadsAndReturns name))

theorem leadsAndReturns_iff (wellFormed : g.WellFormed) :
    g.leadsAndReturns a b = true ↔ ReflTransGen g.Edge a b ∧ ReflTransGen g.Edge b a := by
  simp only [leadsAndReturns, Bool.or_eq_true, Bool.and_eq_true, decide_eq_true_eq,
    List.contains_iff_mem, mem_reachable wellFormed, reflTransGen_iff_eq_or_transGen]
  constructor
  · rintro (same | ⟨there, back⟩)
    · exact ⟨.inl same, .inl same.symm⟩
    · exact ⟨.inr there, .inr back⟩
  · rintro ⟨same | there, same' | back⟩
    · exact .inl same
    · exact .inl same
    · exact .inl same'.symm
    · exact .inr ⟨there, back⟩

theorem leadsAndReturns_self (wellFormed : g.WellFormed) (name : String) :
    g.leadsAndReturns name name = true :=
  (leadsAndReturns_iff wellFormed).mpr ⟨.refl, .refl⟩

theorem leadsAndReturns_congr (wellFormed : g.WellFormed) (linked : g.leadsAndReturns a b = true) :
    g.leadsAndReturns a = g.leadsAndReturns b := by
  obtain ⟨there, back⟩ := (leadsAndReturns_iff wellFormed).mp linked
  funext other
  rw [Bool.eq_iff_iff, leadsAndReturns_iff wellFormed, leadsAndReturns_iff wellFormed]
  constructor
  · exact fun ⟨first, second⟩ => ⟨back.trans first, second.trans there⟩
  · exact fun ⟨first, second⟩ => ⟨there.trans first, second.trans back⟩

theorem mem_strongComponents :
    component ∈ g.strongComponents ↔
      ∃ name ∈ g.nodes, g.nodes.filter (g.leadsAndReturns name) = component := by
  rw [strongComponents, mem_firstOccurrences, List.mem_map]

/-- So every graph has a partition of its nodes into strongly connected components. -/
theorem strongPartition_strongComponents (wellFormed : g.WellFormed) :
    g.StrongPartition g.strongComponents where
  distinct := by
    refine List.nodup_flatten.mpr ⟨?_, (nodup_firstOccurrences _).pairwise_of_forall_ne ?_⟩
    · intro component listed
      obtain ⟨name, -, rfl⟩ := mem_strongComponents.mp listed
      exact wellFormed.distinct.filter _
    · intro one oneListed two twoListed differ name inOne inTwo
      obtain ⟨a, -, rfl⟩ := mem_strongComponents.mp oneListed
      obtain ⟨b, -, rfl⟩ := mem_strongComponents.mp twoListed
      refine differ ?_
      rw [leadsAndReturns_congr wellFormed (List.mem_filter.mp inOne).2,
        leadsAndReturns_congr wellFormed (List.mem_filter.mp inTwo).2]
  filled := by
    intro listed
    obtain ⟨name, node, empty⟩ := mem_strongComponents.mp listed
    exact List.filter_eq_nil_iff.mp empty name node (leadsAndReturns_self wellFormed name)
  covers := by
    intro name
    rw [List.mem_flatten]
    constructor
    · rintro ⟨component, listed, member⟩
      obtain ⟨first, -, rfl⟩ := mem_strongComponents.mp listed
      exact List.mem_of_mem_filter member
    · intro node
      exact ⟨_, mem_strongComponents.mpr ⟨name, node, rfl⟩,
        List.mem_filter.mpr ⟨node, leadsAndReturns_self wellFormed name⟩⟩
  together := by
    intro component listed a aMember b
    obtain ⟨name, -, rfl⟩ := mem_strongComponents.mp listed
    obtain ⟨node, linked⟩ := List.mem_filter.mp aMember
    rw [leadsAndReturns_congr wellFormed linked, List.mem_filter, leadsAndReturns_iff wellFormed]
    refine ⟨And.right, fun ⟨there, back⟩ => ⟨?_, there, back⟩⟩
    -- a walk to another name ends with an edge, which stays among the nodes
    rcases reflTransGen_iff_eq_or_transGen.mp there with rfl | there
    · exact node
    · obtain ⟨before, -, edge⟩ := TransGen.tail'_iff.mp there
      exact wellFormed.target_mem before b edge

end Existence

end ReferenceGraph

end ApiReview
