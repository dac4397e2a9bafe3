import ApiReview.Proofs.Checks.SelfReferences
import ApiReview.Proofs.Review.CircularDependencies

/-!
# Reordered schemas

Declaring the component schemas in another order, or the properties of any of
their nodes, moves the nodes of the reference graph around: other loops are found
first, and loops are written from other names.  But the references stay the same,
so the keys of the reported loops do, and so do the schemas that are reported to
refer to themselves.
-/

namespace ApiReview

section Related

variable {α β : Type} {related : α → β → Prop}

/-- Pairwise related lists agree on what holds of some member, if it holds of
related members alike. -/
theorem exists_mem_congr {items : List α} {others : List β} {one : α → Prop} {two : β → Prop}
    (pairs : List.Forall₂ related items others)
    (congr : ∀ a ∈ items, ∀ b, related a b → (one a ↔ two b)) :
    (∃ a ∈ items, one a) ↔ ∃ b ∈ others, two b := by
  induction pairs with
  | nil => simp
  | @cons a b items others head tail ih =>
      have same := congr a (by simp) b head
      have later := ih fun a member => congr a (List.mem_cons_of_mem _ member)
      rw [List.exists_mem_cons_iff, List.exists_mem_cons_iff, same, later]

theorem exists_some_congr {item : Option α} {other : Option β} {one : α → Prop}
    {two : β → Prop} (pair : Option.Rel related item other)
    (congr : ∀ a ∈ item, ∀ b, related a b → (one a ↔ two b)) :
    (∃ a ∈ item, one a) ↔ ∃ b ∈ other, two b := by
  cases pair with
  | none => simp
  | @some a b head => simpa using congr a rfl b head

end Related

/-- Related values of the `additionalProperties` keyword. -/
inductive Additional.Related {σ : Type} (related : σ → σ → Prop) :
    Additional σ → Additional σ → Prop
  | allowed (flag : Bool) : Related related (.allowed flag) (.allowed flag)
  | valued {s t : σ} (pair : related s t) : Related related (.valued s) (.valued t)

namespace Schema

/-- A schema with the properties of each of its nodes in another order. -/
inductive Reordered : Schema → Schema → Prop
  | intro {s t : Schema} (keywords : s.toKeywords = t.toKeywords)
      (properties : Table.Reordered Reordered s.properties t.properties)
      (items : Option.Rel Reordered s.items t.items)
      (allOf : List.Forall₂ Reordered s.allOf t.allOf)
      (oneOf : List.Forall₂ Reordered s.oneOf t.oneOf)
      (anyOf : List.Forall₂ Reordered s.anyOf t.anyOf)
      (additional : Option.Rel (Additional.Related Reordered) s.additional t.additional) :
      Reordered s t

variable {s t : Schema} {one two : Schema → Prop}

theorem exists_childOf_iff :
    (∃ child, s.ChildOf child ∧ one child) ↔
      (∃ entry ∈ s.properties, one entry.2) ∨ (∃ child ∈ s.items, one child) ∨
      (∃ child ∈ s.allOf, one child) ∨ (∃ child ∈ s.oneOf, one child) ∨
      ∃ child ∈ s.anyOf, one child := by
  constructor
  · rintro ⟨child, below, holds⟩
    cases below with
    | @property name _ member => exact .inl ⟨(name, child), member, holds⟩
    | items member => exact .inr (.inl ⟨child, member, holds⟩)
    | allOf member => exact .inr (.inr (.inl ⟨child, member, holds⟩))
    | oneOf member => exact .inr (.inr (.inr (.inl ⟨child, member, holds⟩)))
    | anyOf member => exact .inr (.inr (.inr (.inr ⟨child, member, holds⟩)))
  · rintro (⟨⟨name, child⟩, member, holds⟩ | ⟨child, member, holds⟩ | ⟨child, member, holds⟩ |
      ⟨child, member, holds⟩ | ⟨child, member, holds⟩)
    · exact ⟨child, .property member, holds⟩
    · exact ⟨child, .items member, holds⟩
    · exact ⟨child, .allOf member, holds⟩
    · exact ⟨child, .oneOf member, holds⟩
    · exact ⟨child, .anyOf member, holds⟩

/-- What stands below a schema is reordered along with it. -/
theorem Reordered.exists_childOf_congr (reordered : s.Reordered t)
    (congr : ∀ a, s.ChildOf a → ∀ b, a.Reordered b → (one a ↔ two b)) :
    (∃ child, s.ChildOf child ∧ one child) ↔ ∃ child, t.ChildOf child ∧ two child := by
  obtain ⟨keywords, properties, items, allOf, oneOf, anyOf, additional⟩ := reordered
  rw [exists_childOf_iff, exists_childOf_iff]
  refine or_congr ?_ (or_congr ?_ (or_congr ?_ (or_congr ?_ ?_)))
  · exact properties.exists_entry_congr fun name a b member => congr a (.property member) b
  · exact exists_some_congr items fun a member => congr a (.items member)
  · exact exists_mem_congr allOf fun a member => congr a (.allOf member)
  · exact exists_mem_congr oneOf fun a member => congr a (.oneOf member)
  · exact exists_mem_congr anyOf fun a member => congr a (.anyOf member)

theorem exists_reaches_iff :
    (∃ node, s.Reaches node ∧ one node) ↔
      one s ∨ s.isReference = false ∧
        ∃ child, s.ChildOf child ∧ ∃ node, child.Reaches node ∧ one node := by
  constructor
  · rintro ⟨node, reaches, holds⟩
    rcases Relation.ReflTransGen.cases_head reaches with rfl | ⟨child, ⟨plain, below⟩, onward⟩
    · exact .inl holds
    · exact .inr ⟨plain, child, below, node, onward, holds⟩
  · rintro (holds | ⟨plain, child, below, node, onward, holds⟩)
    · exact ⟨s, .refl, holds⟩
    · exact ⟨node, .head ⟨plain, below⟩ onward, holds⟩

theorem Reordered.exists_reaches_congr {target : String} (reordered : s.Reordered t) :
    (∃ node, s.Reaches node ∧ node.componentTarget? = some target) ↔
      ∃ node, t.Reaches node ∧ node.componentTarget? = some target := by
  induction s using child_induction generalizing t with
  | step s ih =>
      have sameReference : s.reference = t.reference := by
        obtain ⟨keywords⟩ := reordered
        rw [keywords]
      have sameTarget : s.componentTarget? = t.componentTarget? := by
        rw [componentTarget?, componentTarget?, sameReference]
      have sameKind : s.isReference = t.isReference := by
        rw [isReference, isReference, sameReference]
      rw [exists_reaches_iff, exists_reaches_iff, sameTarget, sameKind]
      refine or_congr Iff.rfl (and_congr_right fun _ => ?_)
      exact reordered.exists_childOf_congr fun a below b pair => ih a below pair

end Schema

namespace Document

open Checks (loopReport selfVisit?)

variable {d e : Document}

theorem refersTo_iff_exists_entry {source target : String} :
    d.RefersTo source target ↔ ∃ entry ∈ d.schemas, entry.1 = source ∧
      ∃ node, entry.2.Reaches node ∧ node.componentTarget? = some target := by
  constructor
  · rintro ⟨body, node, member, reaches, refers⟩
    exact ⟨(source, body), member, rfl, node, reaches, refers⟩
  · rintro ⟨⟨name, body⟩, member, rfl, node, reaches, refers⟩
    exact ⟨body, node, member, reaches, refers⟩

/-- Reordered component schemas refer to each other as before. -/
theorem refersTo_of_reordered (reordered : Table.Reordered Schema.Reordered d.schemas e.schemas) :
    d.RefersTo = e.RefersTo := by
  ext source target
  rw [refersTo_iff_exists_entry, refersTo_iff_exists_entry]
  apply reordered.exists_entry_congr
  intro name a b _ pair
  exact and_congr_right fun _ => pair.exists_reaches_congr

theorem keys_loopsReported_perm (same : d.RefersTo = e.RefersTo) :
    (d.loopsReported.map Loop.key).Perm (e.loopsReported.map Loop.key) := by
  apply (List.perm_ext_iff_of_nodup Checks.nodup_keys_reportedLoops
    Checks.nodup_keys_reportedLoops).mpr
  intro key
  change key ∈ d.loopsReported.map Loop.key ↔ key ∈ e.loopsReported.map Loop.key
  rw [mem_keys_loopsReported, mem_keys_loopsReported, same]

/-- The component schemas that a review reports to refer to themselves, as the
findings name them. -/
def selfReferring (d : Document) (p : Policy) : List (Option String) :=
  (selfReferences (d.review p.unfiltered)).map (·.componentName)

theorem selfReferring_eq (d : Document) (p : Policy) :
    d.selfReferring p = d.schemas.flatMap fun (name, body) =>
      (selfVisit? name (body.walk (Pointer.schema name) [])).toList.map fun _ => some name := by
  rw [selfReferring, review_unfiltered, Checks.selfReferences_findings,
    Checks.selfReferences_schemasFindings, List.map_flatMap]
  simp only [Checks.selfReferences_componentSchemaFindings, List.map_map]
  rfl

theorem selfReferring_perm (p : Policy)
    (reordered : Table.Reordered Schema.Reordered d.schemas e.schemas) :
    (d.selfReferring p).Perm (e.selfReferring p) := by
  rw [selfReferring_eq, selfReferring_eq]
  apply reordered.flatMap_perm
  intro name a b _ pair
  have found : (selfVisit? name (a.walk (Pointer.schema name) [])).isSome =
      (selfVisit? name (b.walk (Pointer.schema name) [])).isSome := by
    rw [Bool.eq_iff_iff, Checks.isSome_selfVisit?_walk, Checks.isSome_selfVisit?_walk]
    exact pair.exists_reaches_congr
  -- where the reference is found differs, but only the name is kept
  have named : ∀ visit? : Option Visit,
      (visit?.toList.map fun _ => some name) = if visit?.isSome then [some name] else [] := by
    intro visit?
    cases visit? <;> rfl
  dsimp only
  rw [named, named, found]

/-- Documents whose component schemas are reordered, whatever else they hold, get
the same number of reports of circular dependencies, with the same keys, and the
same schemas are reported to refer to themselves. -/
theorem review_reordered (d e : Document) (p : Policy)
    (reordered : Table.Reordered Schema.Reordered d.schemas e.schemas) :
    circularDependencies (d.review p.unfiltered) = d.loopsReported.map loopReport ∧
      circularDependencies (e.review p.unfiltered) = e.loopsReported.map loopReport ∧
      (d.loopsReported.map Loop.key).Perm (e.loopsReported.map Loop.key) ∧
      (d.selfReferring p).Perm (e.selfReferring p) :=
  ⟨circularDependencies_review d p, circularDependencies_review e p,
    keys_loopsReported_perm (refersTo_of_reordered reordered), selfReferring_perm p reordered⟩

/-- A schema that refers to itself and to another one, which refers back. -/
def declared : Document where
  components := some
    { schemas := [("A,B", { properties := [("self", referenceTo "A,B"), ("c", referenceTo "C")] }),
        ("C", referenceTo "A,B")] }

/-- The same schemas the other way round, and the same for their properties. -/
def redeclared : Document where
  components := some
    { schemas := [("C", referenceTo "A,B"),
        ("A,B", { properties := [("c", referenceTo "C"), ("self", referenceTo "A,B")] })] }

theorem review_reordered_redeclared :
    Table.Reordered Schema.Reordered declared.schemas redeclared.schemas ∧
      declared.loopsReported = [["A,B", "A,B"], ["A,B", "C", "A,B"]] ∧
      redeclared.loopsReported = [["C", "A,B", "C"], ["A,B", "A,B"]] ∧
      (declared.loopsReported.map Loop.key).Perm (redeclared.loopsReported.map Loop.key) ∧
      (declared.selfReferring {}).Perm (redeclared.selfReferring {}) := by
  have leaf : ∀ name, (referenceTo name).Reordered (referenceTo name) := fun name =>
    .intro rfl .nil .none .nil .nil .nil .none
  have properties : Table.Reordered Schema.Reordered
      [("self", referenceTo "A,B"), ("c", referenceTo "C")]
      [("c", referenceTo "C"), ("self", referenceTo "A,B")] :=
    @Table.Reordered.cons _ _ _ _ _ _ [("c", referenceTo "C")] [] (leaf "A,B")
      (@Table.Reordered.cons _ _ _ _ _ _ [] [] (leaf "C") .nil)
  have reordered : Table.Reordered Schema.Reordered declared.schemas redeclared.schemas :=
    @Table.Reordered.cons _ _ _ _ _ _ [("C", referenceTo "A,B")] []
      (.intro rfl properties .none .nil .nil .nil .none)
      (@Table.Reordered.cons _ _ _ _ _ _ [] [] (leaf "A,B") .nil)
  obtain ⟨-, -, keys, schemas⟩ := review_reordered declared redeclared {} reordered
  exact ⟨reordered, by decide +kernel, by decide +kernel, keys, schemas⟩

end Document

end ApiReview
