import ApiReview.Review.ReferenceGraph
import Mathlib.Data.List.Nodup
import Mathlib.Data.List.Perm.Subperm
import Mathlib.Logic.Relation

/-!
# Reachability in reference graphs

The search behind `ReferenceGraph.reachable` keeps a list of names that wait and
a list of names that were seen.  Each round takes one waiting name and lets the
unseen ones among its targets wait, so a name waits once, and one round for each
node is enough.  The names reached are then exactly those at the end of a walk
over one edge or more.
-/

namespace ApiReview.ReferenceGraph

open Relation (TransGen)

/-- One name of the graph points at another one. -/
def Edge (g : ReferenceGraph) (source target : String) : Prop :=
  target ∈ g.targets source

/-- The nodes are distinct, edges stay among them, and no edge is doubled. -/
structure WellFormed (g : ReferenceGraph) : Prop where
  distinct : g.nodes.Nodup
  source_mem : ∀ source target, g.Edge source target → source ∈ g.nodes
  target_mem : ∀ source target, g.Edge source target → target ∈ g.nodes
  targets_distinct : ∀ source, (g.targets source).Nodup

/-- The state of the search between two rounds: everything that waits was seen,
and what was seen but waits no longer has all its targets among the seen. -/
structure Exploring (g : ReferenceGraph) (work seen : List String) : Prop where
  distinct : seen.Nodup
  within : ∀ name ∈ seen, name ∈ g.nodes
  pending : ∀ name ∈ work, name ∈ seen
  explored : ∀ name ∈ seen, name ∈ work ∨ ∀ next, g.Edge name next → next ∈ seen

variable {g : ReferenceGraph} {name : String} {work seen : List String}

/-- The names that one round lets wait. -/
def fresh (g : ReferenceGraph) (name : String) (seen : List String) : List String :=
  (g.targets name).filter fun next => !seen.contains next

@[simp]
theorem mem_fresh {next : String} : next ∈ g.fresh name seen ↔ g.Edge name next ∧ next ∉ seen := by
  simp [fresh, Edge]

theorem closure_cons (rounds : Nat) :
    g.closure (rounds + 1) (name :: work) seen =
      g.closure rounds (g.fresh name seen ++ work) (seen ++ g.fresh name seen) :=
  rfl

theorem Exploring.length_le (exploring : g.Exploring work seen) :
    seen.length ≤ g.nodes.length :=
  (List.subperm_of_subset exploring.distinct exploring.within).length_le

theorem Exploring.round (wellFormed : g.WellFormed) (exploring : g.Exploring (name :: work) seen) :
    g.Exploring (g.fresh name seen ++ work) (seen ++ g.fresh name seen) where
  distinct := by
    refine List.Nodup.append exploring.distinct
      ((wellFormed.targets_distinct name).filter _) ?_
    intro other inSeen inFresh
    exact (mem_fresh.mp inFresh).2 inSeen
  within := by
    intro other member
    rcases List.mem_append.mp member with inSeen | inFresh
    · exact exploring.within other inSeen
    · exact wellFormed.target_mem name other (mem_fresh.mp inFresh).1
  pending := by
    intro other member
    rcases List.mem_append.mp member with inFresh | inWork
    · exact List.mem_append_right _ inFresh
    · exact List.mem_append_left _ (exploring.pending other (List.mem_cons_of_mem _ inWork))
  explored := by
    intro other member
    rcases List.mem_append.mp member with inSeen | inFresh
    · rcases exploring.explored other inSeen with waits | done
      · rcases List.mem_cons.mp waits with rfl | waits
        · -- the name taken off in this round: its unseen targets are the fresh ones
          right
          intro next edge
          by_cases known : next ∈ seen
          · exact List.mem_append_left _ known
          · exact List.mem_append_right _ (mem_fresh.mpr ⟨edge, known⟩)
        · exact Or.inl (List.mem_append_right _ waits)
      · exact Or.inr fun next edge => List.mem_append_left _ (done next edge)
    · exact Or.inl (List.mem_append_left _ inFresh)

/-- With a round for each name that waits or was not seen yet, the search keeps
what was seen and ends in a list that no edge leaves. -/
theorem closure_closed (wellFormed : g.WellFormed) (rounds : Nat)
    (exploring : g.Exploring work seen)
    (enough : work.length + (g.nodes.length - seen.length) ≤ rounds) :
    (∀ name ∈ seen, name ∈ g.closure rounds work seen) ∧
      ∀ name ∈ g.closure rounds work seen, ∀ next, g.Edge name next →
        next ∈ g.closure rounds work seen := by
  induction rounds generalizing work seen with
  | zero =>
      have done : work = [] := List.length_eq_zero_iff.mp (by omega)
      subst done
      refine ⟨fun _ member => member, fun name member => ?_⟩
      exact (exploring.explored name member).resolve_left (by simp)
  | succ rounds ih =>
      cases work with
      | nil =>
          refine ⟨fun _ member => member, fun name member => ?_⟩
          exact (exploring.explored name member).resolve_left (by simp)
      | cons name work =>
          -- a round takes one name off, and what it lets wait was unseen before
          have next := exploring.round wellFormed
          have bound := next.length_le
          obtain ⟨keeps, closed⟩ := ih next (by
            simp only [List.length_append, List.length_cons] at enough bound ⊢
            omega)
          rw [closure_cons]
          exact ⟨fun other member => keeps other (List.mem_append_left _ member), closed⟩

/-- The search stays among the names of any property that edges keep. -/
theorem closure_induction (property : String → Prop)
    (keeps : ∀ source target, property source → g.Edge source target → property target)
    (rounds : Nat) (waiting : ∀ name ∈ work, property name) (known : ∀ name ∈ seen, property name) :
    ∀ name ∈ g.closure rounds work seen, property name := by
  induction rounds generalizing work seen with
  | zero => exact known
  | succ rounds ih =>
      cases work with
      | nil => exact known
      | cons first work =>
          rw [closure_cons]
          have freshKept : ∀ name ∈ g.fresh first seen, property name := fun name member =>
            keeps first name (waiting first (by simp)) (mem_fresh.mp member).1
          refine ih ?_ ?_
          · intro name member
            rcases List.mem_append.mp member with inFresh | inWork
            · exact freshKept name inFresh
            · exact waiting name (List.mem_cons_of_mem _ inWork)
          · intro name member
            rcases List.mem_append.mp member with inSeen | inFresh
            · exact known name inSeen
            · exact freshKept name inFresh

theorem exploring_targets (wellFormed : g.WellFormed) (name : String) :
    g.Exploring (g.targets name) (g.targets name) where
  distinct := wellFormed.targets_distinct name
  within := wellFormed.target_mem name
  pending := fun _ member => member
  explored := fun _ member => Or.inl member

/-- The names reached are those at the end of a walk over one edge or more. -/
theorem mem_reachable (wellFormed : g.WellFormed) {target : String} :
    target ∈ g.reachable name ↔ TransGen g.Edge name target := by
  have start := exploring_targets wellFormed name
  have bound := start.length_le
  obtain ⟨keeps, closed⟩ := closure_closed wellFormed (g.nodes.length + 1) start (by omega)
  constructor
  · refine closure_induction (TransGen g.Edge name) ?_ _ ?_ ?_ target
    · exact fun _ _ walk edge => walk.tail edge
    · exact fun _ edge => .single edge
    · exact fun _ edge => .single edge
  · intro walk
    induction walk with
    | single edge => exact keeps _ edge
    | tail _ edge ih => exact closed _ ih _ edge

end ApiReview.ReferenceGraph
