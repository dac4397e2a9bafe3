import ApiReview.Proofs.References.Reachability
import Mathlib.Data.List.Chain
import Mathlib.Data.List.Infix

/-!
# The search for loops

From a walk that ends at some node the search lists every way to go on over
distinct free nodes and back to the start, each of them once.  Inside of a
component the free nodes are those behind the start, so that every loop is found
from its earliest node only.
-/

namespace ApiReview.ReferenceGraph

variable {g : ReferenceGraph} {start node next : String} {free path component : List String}
  {loop : Loop}

/-- The loops that go on from a walk over the given next node. -/
def loopsOver (g : ReferenceGraph) (start : String) (free path : List String)
    (next : String) : List Loop :=
  if next = start then [path ++ [next]]
  else if next ∈ free then g.loopsThrough start (free.erase next) (path ++ [next]) next
  else []

theorem loopsThrough_eq :
    g.loopsThrough start free path node =
      (g.targets node).flatMap (g.loopsOver start free path) := by
  rw [loopsThrough]
  rfl

/-- The loops found go on from the given walk over distinct free nodes and back
to the start. -/
theorem mem_loopsThrough (absent : start ∉ free) (distinct : free.Nodup) :
    loop ∈ g.loopsThrough start free path node ↔
      ∃ rest, loop = path ++ rest ++ [start] ∧ rest.Nodup ∧ rest ⊆ free ∧
        (node :: rest ++ [start]).IsChain g.Edge := by
  -- on the search itself: a node that is gone over is no longer free further on
  induction free, path, node using loopsThrough.induct with
  | case1 free path node ih =>
      rw [loopsThrough_eq, List.mem_flatMap]
      constructor
      · rintro ⟨next, edge, found⟩
        unfold loopsOver at found
        split_ifs at found with closes isFree
        · subst closes
          exact ⟨[], by simpa using found, List.nodup_nil, List.nil_subset _,
            List.isChain_pair.mpr edge⟩
        · have stillAbsent : start ∉ free.erase next := fun member =>
            absent (List.mem_of_mem_erase member)
          obtain ⟨rest, rfl, restDistinct, within, chain⟩ :=
            (ih next isFree stillAbsent (distinct.erase next)).mp found
          have unused : next ∉ rest := fun member =>
            distinct.not_mem_erase (within member)
          refine ⟨next :: rest, by simp, List.nodup_cons.mpr ⟨unused, restDistinct⟩, ?_,
            List.isChain_cons_cons.mpr ⟨edge, chain⟩⟩
          exact List.cons_subset.mpr ⟨isFree, fun _ member =>
            List.mem_of_mem_erase (within member)⟩
        · simp at found
      · rintro ⟨rest, rfl, restDistinct, within, chain⟩
        cases rest with
        | nil =>
            exact ⟨start, List.isChain_pair.mp chain, by simp [loopsOver]⟩
        | cons next rest =>
            obtain ⟨isFree, restWithin⟩ := List.cons_subset.mp within
            obtain ⟨unused, restDistinct⟩ := List.nodup_cons.mp restDistinct
            obtain ⟨edge, chain⟩ := List.isChain_cons_cons.mp chain
            have opens : next ≠ start := fun equal => absent (equal ▸ isFree)
            have stillAbsent : start ∉ free.erase next := fun member =>
              absent (List.mem_of_mem_erase member)
            refine ⟨next, edge, ?_⟩
            rw [loopsOver, if_neg opens, if_pos isFree,
              ih next isFree stillAbsent (distinct.erase next)]
            refine ⟨rest, by simp, restDistinct, fun other member => ?_, chain⟩
            have differs : other ≠ next := fun equal => unused (equal ▸ member)
            exact (List.mem_erase_of_ne differs).mpr (restWithin member)

theorem prefix_of_mem_loopsThrough (found : loop ∈ g.loopsThrough start free path node) :
    path <+: loop := by
  induction free, path, node using loopsThrough.induct with
  | case1 free path node ih =>
      rw [loopsThrough_eq, List.mem_flatMap] at found
      obtain ⟨next, -, found⟩ := found
      unfold loopsOver at found
      split_ifs at found with closes isFree
      · rw [List.mem_singleton.mp found]
        exact List.prefix_append path [next]
      · exact (List.prefix_append path [next]).trans (ih next isFree found)
      · simp at found

theorem prefix_of_mem_loopsOver (found : loop ∈ g.loopsOver start free path next) :
    path ++ [next] <+: loop := by
  unfold loopsOver at found
  split_ifs at found
  · rw [List.mem_singleton.mp found]
  · exact prefix_of_mem_loopsThrough found
  · simp at found

theorem disjoint_loopsOver {other : String} (differs : next ≠ other) :
    List.Disjoint (g.loopsOver start free path next) (g.loopsOver start free path other) := by
  intro loop one two
  have equal : path ++ [next] = path ++ [other] :=
    (List.prefix_of_prefix_length_le (prefix_of_mem_loopsOver one) (prefix_of_mem_loopsOver two)
      (by simp)).eq_of_length (by simp)
  exact differs (by simpa using equal)

theorem nodup_loopsThrough (wellFormed : g.WellFormed) :
    (g.loopsThrough start free path node).Nodup := by
  induction free, path, node using loopsThrough.induct with
  | case1 free path node ih =>
      rw [loopsThrough_eq, List.nodup_flatMap]
      constructor
      · intro next _
        unfold loopsOver
        split_ifs with closes isFree
        · exact List.nodup_singleton _
        · exact ih next isFree
        · exact List.nodup_nil
      · -- loops over different targets part right behind the walk
        exact (wellFormed.targets_distinct node).imp disjoint_loopsOver

/-- A loop within a component starts at some node and stays behind it. -/
theorem mem_loopsWithin (distinct : component.Nodup) :
    loop ∈ g.loopsWithin component ↔
      ∃ first later rest, first :: later <:+ component ∧ loop = first :: rest ++ [first] ∧
        rest.Nodup ∧ rest ⊆ later ∧ (first :: rest ++ [first]).IsChain g.Edge := by
  induction component with
  | nil => simp [loopsWithin]
  | cons start later ih =>
      obtain ⟨absent, laterDistinct⟩ := List.nodup_cons.mp distinct
      rw [loopsWithin, List.mem_append, mem_loopsThrough absent laterDistinct, ih laterDistinct]
      constructor
      · rintro (⟨rest, equal, found⟩ | ⟨first, behind, rest, suffix, found⟩)
        · exact ⟨start, later, rest, List.suffix_rfl, equal, found⟩
        · exact ⟨first, behind, rest, suffix.trans (List.suffix_cons start later), found⟩
      · rintro ⟨first, behind, rest, suffix, found⟩
        rcases List.suffix_cons_iff.mp suffix with equal | suffix
        · obtain ⟨rfl, rfl⟩ := List.cons.inj equal
          exact Or.inl ⟨rest, found⟩
        · exact Or.inr ⟨first, behind, rest, suffix, found⟩

theorem nodup_loopsWithin (wellFormed : g.WellFormed) (distinct : component.Nodup) :
    (g.loopsWithin component).Nodup := by
  induction component with
  | nil => exact List.nodup_nil
  | cons start later ih =>
      obtain ⟨absent, laterDistinct⟩ := List.nodup_cons.mp distinct
      refine List.Nodup.append (nodup_loopsThrough wellFormed) (ih laterDistinct) ?_
      -- a loop found later begins with a later node, never with this start
      intro loop fromStart fromLater
      obtain ⟨first, behind, rest, suffix, rfl, -⟩ := (mem_loopsWithin laterDistinct).mp fromLater
      have begins := prefix_of_mem_loopsThrough fromStart
      have equal : start = first := by simpa using begins
      exact absent (equal ▸ suffix.mem (by simp))

end ApiReview.ReferenceGraph
