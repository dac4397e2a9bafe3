import ApiReview.Proofs.References.Components
import ApiReview.Proofs.References.ElementaryCycle
import ApiReview.Proofs.References.LoopSearch
import ApiReview.Proofs.References.ReferenceMap

/-!
# The loops of a reference map

The listed loops are the elementary cycles of the references, dangling targets
and references of a name to itself included.  Each elementary cycle is listed
once, written from its name of the lowest rank, where names are ranked by their
place among the nodes of the graph: no restriction of the search loses a cycle,
and none is found again from another of its names.
-/

namespace ApiReview

open Relation (TransGen)

section Chain

variable {α : Type} {related : α → α → Prop} {first last other : α} {rest : List α}

/-- The names of a closed walk reach its start and are reached from there. -/
theorem transGen_of_isChain (chain : (first :: rest ++ [last]).IsChain related)
    (member : other ∈ rest) : TransGen related first other ∧ TransGen related other last := by
  have walk := chain.imp fun _ _ => TransGen.single (r := related)
  obtain ⟨before, after, rfl⟩ := List.append_of_mem member
  have whole : ((first :: before) ++ other :: (after ++ [last])).IsChain (TransGen related) := by
    simpa using walk
  have behind := whole.right_of_append
  exact ⟨walk.rel_cons (by simp), behind.rel_cons (by simp)⟩

end Chain

namespace ReferenceGraph

variable {g : ReferenceGraph} {loop : Loop}

/-- The loops of a graph are its elementary cycles, each written from its
earliest node. -/
theorem mem_loops (wellFormed : g.WellFormed) :
    loop ∈ g.loops ↔ ∃ first rest, loop = first :: rest ++ [first] ∧
      IsElementaryCycle g.Edge ↑(first :: rest) ∧
      ∀ other ∈ rest, g.nodes.idxOf first < g.nodes.idxOf other := by
  have ordered := pairwise_idxOf_lt wellFormed.distinct
  unfold loops
  rw [List.mem_flatMap]
  constructor
  · rintro ⟨component, listed, found⟩
    have sublist := sublist_nodes_of_mem_components wellFormed listed
    obtain ⟨first, later, rest, suffix, rfl, restDistinct, within, chain⟩ :=
      (mem_loopsWithin (wellFormed.distinct.sublist sublist)).mp found
    have laterSublist := suffix.sublist.trans sublist
    have absent : first ∉ later := (List.nodup_cons.mp (wellFormed.distinct.sublist laterSublist)).1
    refine ⟨first, rest, rfl, isElementaryCycle_cons.mpr ⟨?_, chain⟩, ?_⟩
    · exact List.nodup_cons.mpr ⟨fun member => absent (within member), restDistinct⟩
    · intro other member
      exact List.rel_of_pairwise_cons (ordered.sublist laterSublist) (within member)
  · rintro ⟨first, rest, rfl, elementary, earliest⟩
    obtain ⟨distinct, chain⟩ := isElementaryCycle_cons.mp elementary
    obtain ⟨unused, restDistinct⟩ := List.nodup_cons.mp distinct
    obtain ⟨next, edge⟩ := elementary.exists_related first (by simp)
    have closes : TransGen g.Edge first first :=
      (chain.imp fun _ _ => TransGen.single (r := g.Edge)).rel_cons (by simp)
    have isNode := wellFormed.source_mem first next edge
    have listed : g.componentOf first ∈ g.components :=
      (mem_components wellFormed).mpr ⟨first, isNode, closes, rfl⟩
    have sublist := sublist_nodes_of_mem_components wellFormed listed
    refine ⟨g.componentOf first, listed, ?_⟩
    rw [mem_loopsWithin (wellFormed.distinct.sublist sublist)]
    obtain ⟨before, later, split⟩ := List.append_of_mem
      ((mem_componentOf wellFormed).mpr ⟨isNode, closes, closes⟩)
    refine ⟨first, later, rest, ⟨before, split.symm⟩, rfl, restDistinct, ?_, chain⟩
    -- the loop stays in the component, and what stands before `first` there ranks lower
    intro other member
    have reaches := transGen_of_isChain chain member
    obtain ⟨following, otherEdge⟩ := elementary.exists_related other (by simp [member])
    have inComponent : other ∈ before ++ first :: later := by
      rw [← split]
      exact (mem_componentOf wellFormed).mpr
        ⟨wellFormed.source_mem other following otherEdge, reaches⟩
    rcases List.mem_append.mp inComponent with inBefore | behind
    · have lower := (List.pairwise_append.mp (split ▸ ordered.sublist sublist)).2.2
        other inBefore first (by simp)
      exact absurd lower (Nat.not_lt_of_lt (earliest other member))
    · rcases List.mem_cons.mp behind with rfl | inLater
      · exact absurd member unused
      · exact inLater

theorem nodup_loops (wellFormed : g.WellFormed) : g.loops.Nodup := by
  have componentDistinct : ∀ component ∈ g.components, component.Nodup := fun component listed =>
    wellFormed.distinct.sublist (sublist_nodes_of_mem_components wellFormed listed)
  unfold loops
  rw [List.nodup_flatMap]
  refine ⟨fun component listed => nodup_loopsWithin wellFormed (componentDistinct _ listed), ?_⟩
  refine (nodup_components wellFormed).pairwise_of_forall_ne ?_
  intro one oneListed two twoListed differ loop fromOne fromTwo
  obtain ⟨first, _, rest, suffix, rfl, -⟩ :=
    (mem_loopsWithin (componentDistinct one oneListed)).mp fromOne
  obtain ⟨first', _, rest', suffix', equal, -⟩ :=
    (mem_loopsWithin (componentDistinct two twoListed)).mp fromTwo
  obtain ⟨rfl, -⟩ := List.cons.inj equal
  have inOne : first ∈ one := suffix.mem (by simp)
  have inTwo : first ∈ two := suffix'.mem (by simp)
  exact differ (components_eq_of_mem wellFormed oneListed twoListed inOne inTwo)

end ReferenceGraph

namespace ReferenceMap

variable {m : ReferenceMap} {a b : String}

/-- The place of a name among the nodes of the graph: declared names first, then
targets as they come up. -/
def rank (m : ReferenceMap) (name : String) : Nat :=
  (ReferenceGraph.ofReferences m).nodes.idxOf name

theorem nodes_eq :
    (ReferenceGraph.ofReferences m).nodes = firstOccurrences (m.names ++ m.flatMap (·.2)) := by
  unfold firstOccurrences
  rw [List.foldl_append]
  rfl

theorem WellFormed.edge_iff (wellFormed : m.WellFormed) :
    (ReferenceGraph.ofReferences m).Edge a b ↔ m.RefersTo a b := by
  unfold ReferenceGraph.Edge ReferenceGraph.targets RefersTo
  constructor
  · intro edge
    cases found : Table.get? m a with
    | none => simp [ReferenceGraph.ofReferences, found] at edge
    | some targets =>
        exact ⟨targets, Table.mem_of_get? found, by
          simpa [ReferenceGraph.ofReferences, found] using edge⟩
  · rintro ⟨targets, entry, member⟩
    have found := wellFormed.distinct.get?_eq_some_iff.mpr entry
    simpa [ReferenceGraph.ofReferences, found] using member

theorem WellFormed.graph (wellFormed : m.WellFormed) :
    (ReferenceGraph.ofReferences m).WellFormed where
  distinct := nodes_eq ▸ nodup_firstOccurrences _
  source_mem := by
    intro source target edge
    rw [nodes_eq, mem_firstOccurrences]
    exact List.mem_append_left _ (wellFormed.edge_iff.mp edge).mem_names
  target_mem := by
    intro source target edge
    obtain ⟨targets, entry, member⟩ := wellFormed.edge_iff.mp edge
    rw [nodes_eq, mem_firstOccurrences]
    exact List.mem_append_right _ (List.mem_flatMap.mpr ⟨_, entry, member⟩)
  targets_distinct := by
    intro source
    unfold ReferenceGraph.targets
    cases found : Table.get? (ReferenceGraph.ofReferences m).references source with
    | none => exact List.nodup_nil
    | some targets =>
        have ascending := wellFormed.ascending source targets (Table.mem_of_get? found)
        exact ascending.imp fun before => ne_of_lt before

theorem WellFormed.mem_loops (wellFormed : m.WellFormed) {loop : Loop} :
    loop ∈ m.loops ↔ ∃ first rest, loop = first :: rest ++ [first] ∧
      IsElementaryCycle m.RefersTo ↑(first :: rest) ∧
      ∀ other ∈ rest, m.rank first < m.rank other := by
  have same : (ReferenceGraph.ofReferences m).Edge = m.RefersTo := by
    funext a b
    exact propext wellFormed.edge_iff
  unfold loops
  rw [ReferenceGraph.mem_loops wellFormed.graph, same]
  rfl

theorem eq_of_rank_eq (known : a ∈ m.names) (equal : m.rank a = m.rank b) : a = b := by
  have isNode : a ∈ (ReferenceGraph.ofReferences m).nodes := by
    rw [nodes_eq, mem_firstOccurrences]
    exact List.mem_append_left _ known
  exact (List.idxOf_inj isNode).mp equal

/-- The loops of a reference map are its elementary cycles: every listed loop is
one, written from its name of the lowest rank, and every elementary cycle is
listed exactly once. -/
theorem loops_elementaryCycles (m : ReferenceMap) (wellFormed : m.WellFormed) :
    m.loops.Nodup ∧
    (∀ loop ∈ m.loops, ∃ first rest, loop = first :: rest ++ [first] ∧
      (first :: rest).Nodup ∧ loop.IsChain m.RefersTo ∧
      ∀ other ∈ rest, m.rank first < m.rank other) ∧
    ∀ cycle : Cycle String, IsElementaryCycle m.RefersTo cycle →
      ∃! loop, loop ∈ m.loops ∧
        ∃ first rest, loop = first :: rest ++ [first] ∧ ↑(first :: rest) = cycle := by
  refine ⟨ReferenceGraph.nodup_loops wellFormed.graph, ?_, ?_⟩
  · intro loop listed
    obtain ⟨first, rest, rfl, elementary, lowest⟩ := wellFormed.mem_loops.mp listed
    obtain ⟨distinct, chain⟩ := isElementaryCycle_cons.mp elementary
    exact ⟨first, rest, rfl, distinct, chain, lowest⟩
  · intro cycle elementary
    have known : ∀ name ∈ cycle, name ∈ m.names := by
      intro name member
      obtain ⟨next, refers⟩ := elementary.exists_related name member
      exact refers.mem_names
    obtain ⟨first, rest, rfl, lowest⟩ := exists_lowest_first m.rank elementary.nonempty
      elementary.distinct fun a member b _ equal =>
        eq_of_rank_eq (known a member) equal
    refine ⟨first :: rest ++ [first], ⟨wellFormed.mem_loops.mpr ⟨first, rest, rfl, elementary,
      lowest⟩, first, rest, rfl, rfl⟩, ?_⟩
    rintro loop ⟨listed, first', rest', rfl, same⟩
    obtain ⟨first'', rest'', equal, -, lowest'⟩ := wellFormed.mem_loops.mp listed
    obtain ⟨rfl, tail⟩ := List.cons.inj equal
    obtain rfl := List.append_cancel_right tail
    have lists := lowest_first_unique (Cycle.nodup_coe_iff.mp elementary.distinct) same.symm
      lowest lowest'
    obtain ⟨rfl, rfl⟩ := List.cons.inj lists
    rfl

/-- Two loops that share a reference. -/
def overlapping : ReferenceMap :=
  ((((ReferenceMap.add [] "C" "B").add "B" "A").add "A" "B").add "A" "C")

/-- The loop over all three names is listed once, from the name entered first. -/
theorem loops_elementaryCycles_overlapping :
    overlapping.WellFormed ∧ IsElementaryCycle overlapping.RefersTo ↑["A", "C", "B"] ∧
      ∃! loop, loop ∈ overlapping.loops ∧
        ∃ first rest, loop = first :: rest ++ [first] ∧
          ↑(first :: rest) = (↑["A", "C", "B"] : Cycle String) := by
  have wellFormed : overlapping.WellFormed := WellFormed.nil.add.add.add.add
  have elementary : IsElementaryCycle overlapping.RefersTo ↑["A", "C", "B"] :=
    isElementaryCycle_cons.mpr ⟨by decide, by simp [overlapping, refersTo_add]⟩
  exact ⟨wellFormed, elementary, (loops_elementaryCycles overlapping wellFormed).2.2 _ elementary⟩

example : overlapping.loops = [["C", "B", "A", "C"], ["B", "A", "B"]] := by cbv

end ReferenceMap

end ApiReview
