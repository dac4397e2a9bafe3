import ApiReview.Checks.Schemas
import ApiReview.Proofs.FirstOccurrences
import ApiReview.Proofs.References.ReferenceMap
import ApiReview.Proofs.Review.WalkedNodes

/-!
# The references of a document

The check of schemas enters the component schemas in the order of their
declarations, each with the references along its walk.  The reference map of a
document is well formed, its sources are the declared names, and it holds a
reference exactly when the walk over the source gets to a node that refers to
the target.
-/

namespace ApiReview

open Checks (walkTargets)

/-- A declared component schema refers to another name: the walk over its body
gets to a reference to that name. -/
def Document.RefersTo (d : Document) (source target : String) : Prop :=
  ∃ body node, (source, body) ∈ d.schemas ∧ body.Reaches node ∧
    node.componentTarget? = some target

/-- Enter a component schema and the references along its walk. -/
def ReferenceMap.enter (m : ReferenceMap) (entry : String × Schema) : ReferenceMap :=
  (walkTargets (entry.2.walk (Pointer.schema entry.1) [])).foldl (·.add entry.1)
    (m.register entry.1)

/-- The reference map of a document. -/
def Document.references (d : Document) : ReferenceMap :=
  d.schemas.foldl ReferenceMap.enter []

theorem Checks.mem_walkTargets {body : Schema} {path target : String} :
    target ∈ walkTargets (body.walk path []) ↔
      ∃ node, body.Reaches node ∧ node.componentTarget? = some target := by
  unfold walkTargets
  rw [List.mem_filterMap]
  constructor
  · rintro ⟨visit, visited, refers⟩
    exact ⟨visit.schema, Schema.exists_mem_walk_iff.mp ⟨visit, visited, rfl⟩, refers⟩
  · rintro ⟨node, reaches, refers⟩
    have visits : ∃ visit ∈ body.walk path [], visit.schema = node :=
      Schema.exists_mem_walk_iff.mpr reaches
    obtain ⟨visit, visited, rfl⟩ := visits
    exact ⟨visit, visited, refers⟩

namespace ReferenceMap

variable {m : ReferenceMap} {source a b : String} {targets : List String}
  {entry : String × Schema} {entries : List (String × Schema)}

theorem WellFormed.foldl_add (wellFormed : m.WellFormed) :
    WellFormed (targets.foldl (ReferenceMap.add · source) m) := by
  induction targets generalizing m with
  | nil => exact wellFormed
  | cons target rest ih => exact ih wellFormed.add

theorem refersTo_foldl_add :
    RefersTo (targets.foldl (ReferenceMap.add · source) m) a b ↔
      m.RefersTo a b ∨ a = source ∧ b ∈ targets := by
  induction targets generalizing m with
  | nil => simp
  | cons target rest ih =>
      rw [List.foldl_cons, ih, refersTo_add, List.mem_cons, or_assoc, ← and_or_left]

theorem names_foldl_add (registered : source ∈ m.names) :
    Table.names (targets.foldl (ReferenceMap.add · source) m) = m.names := by
  induction targets generalizing m with
  | nil => rfl
  | cons target rest ih =>
      have kept : (m.add source target).names = m.names := by
        rw [names_add, names_register, if_pos registered]
      rw [List.foldl_cons, ih (kept.symm ▸ registered), kept]

theorem WellFormed.enter (wellFormed : m.WellFormed) : (m.enter entry).WellFormed :=
  wellFormed.register.foldl_add

theorem refersTo_enter :
    (m.enter entry).RefersTo a b ↔ m.RefersTo a b ∨
      a = entry.1 ∧ ∃ node, entry.2.Reaches node ∧ node.componentTarget? = some b := by
  unfold ReferenceMap.enter
  rw [refersTo_foldl_add, refersTo_register, Checks.mem_walkTargets]

theorem names_enter : (m.enter entry).names = (m.register entry.1).names :=
  names_foldl_add (mem_names_register.mpr (Or.inl rfl))

theorem WellFormed.foldl_enter (wellFormed : m.WellFormed) :
    WellFormed (entries.foldl ReferenceMap.enter m) := by
  induction entries generalizing m with
  | nil => exact wellFormed
  | cons entry rest ih => exact ih wellFormed.enter

theorem refersTo_foldl_enter :
    RefersTo (entries.foldl ReferenceMap.enter m) a b ↔ m.RefersTo a b ∨
      ∃ body node, (a, body) ∈ entries ∧ body.Reaches node ∧
        node.componentTarget? = some b := by
  induction entries generalizing m with
  | nil => simp
  | cons entry rest ih =>
      rw [List.foldl_cons, ih, refersTo_enter, or_assoc]
      refine or_congr Iff.rfl ?_
      constructor
      · rintro (⟨rfl, node, reaches, refers⟩ | ⟨body, node, member, found⟩)
        · exact ⟨entry.2, node, by simp, reaches, refers⟩
        · exact ⟨body, node, List.mem_cons_of_mem _ member, found⟩
      · rintro ⟨body, node, member, found⟩
        rcases List.mem_cons.mp member with rfl | member
        · exact Or.inl ⟨rfl, node, found⟩
        · exact Or.inr ⟨body, node, member, found⟩

theorem names_foldl_enter (entries : List (String × Schema)) :
    Table.names (entries.foldl ReferenceMap.enter []) =
      firstOccurrences (Table.names entries) := by
  induction entries using List.reverseRecOn with
  | nil => rfl
  | append_singleton entries last ih =>
      have names : Table.names (entries ++ [last]) = Table.names entries ++ [last.1] := by
        simp [Table.names]
      rw [List.foldl_concat, names_enter, names_register, ih, names, firstOccurrences_concat]
      simp only [List.contains_iff_mem]

end ReferenceMap

namespace Document

variable {d : Document} {a b : String}

theorem wellFormed_references (d : Document) : d.references.WellFormed :=
  ReferenceMap.WellFormed.nil.foldl_enter

theorem refersTo_references : d.references.RefersTo a b ↔ d.RefersTo a b := by
  unfold references
  rw [ReferenceMap.refersTo_foldl_enter]
  simp [ReferenceMap.RefersTo, RefersTo]

theorem names_references (d : Document) :
    d.references.names = firstOccurrences d.schemas.names :=
  ReferenceMap.names_foldl_enter d.schemas

theorem RefersTo.mem_names (refers : d.RefersTo a b) : a ∈ d.schemas.names := by
  obtain ⟨body, node, member, -⟩ := refers
  exact Table.mem_names member

end Document

end ApiReview
