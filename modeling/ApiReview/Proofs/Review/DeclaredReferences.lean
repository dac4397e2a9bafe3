import ApiReview.Proofs.Review.CircularDependencies

/-!
# What the check of schemas enters

On a fresh session the check of schemas leaves a reference map whose sources are
the declared names in their order, each with exactly the component schemas that
its body refers to.  Whether a target is declared does not matter.  References
that lead out of the component schemas are not entered, and neither are those of
schemas given in place.
-/

namespace ApiReview.Document

variable {d : Document} {p : Policy} {name : String} {body : Schema}

/-- The references in a session after the check of schemas was run on a fresh one. -/
def afterSchemas (d : Document) (p : Policy) : ReferenceMap :=
  (Checks.schemas.run d (Session.start p)).references

theorem afterSchemas_eq (d : Document) (p : Policy) : d.afterSchemas p = d.references := by
  rw [afterSchemas, Checks.schemas_run]
  rfl

/-- In a table without repetition, what a name refers to is told by its only body. -/
theorem refersTo_iff_of_distinct (distinct : d.schemas.Distinct)
    (declared : (name, body) ∈ d.schemas) {target : String} :
    d.RefersTo name target ↔
      ∃ node, body.Reaches node ∧ node.componentTarget? = some target := by
  constructor
  · rintro ⟨other, node, member, reaches, refers⟩
    rw [distinct.value_unique member declared] at reaches
    exact ⟨node, reaches, refers⟩
  · rintro ⟨node, reaches, refers⟩
    exact ⟨body, node, declared, reaches, refers⟩

theorem exists_targets_references (declared : (name, body) ∈ d.schemas) :
    ∃ targets, d.references.get? name = some targets ∧ targets.Pairwise (· < ·) ∧
      ∀ target, target ∈ targets ↔ d.RefersTo name target := by
  have wellFormed := wellFormed_references d
  have source : name ∈ d.references.names := by
    rw [names_references]
    exact mem_firstOccurrences.mpr (Table.mem_names declared)
  obtain ⟨targets, entry⟩ := Table.exists_of_mem_names source
  have found := wellFormed.distinct.get?_eq_some_iff.mpr entry
  refine ⟨targets, found, wellFormed.ascending name targets entry, fun target => ?_⟩
  rw [← refersTo_references]
  constructor
  · intro member
    exact ⟨targets, entry, member⟩
  · rintro ⟨others, otherEntry, member⟩
    rwa [wellFormed.distinct.value_unique entry otherEntry]

/-- On a fresh session the check of schemas enters the declared names in their
order.  Under each name it enters, in ascending order and once, the targets of the
local references that are reached from its body, which are leaves of the way there. -/
theorem references_after_schemas (d : Document) (p : Policy) (distinct : d.schemas.Distinct) :
    (d.afterSchemas p).names = d.schemas.names ∧
      ∀ name body, (name, body) ∈ d.schemas →
        ∃ targets, (d.afterSchemas p).get? name = some targets ∧ targets.Pairwise (· < ·) ∧
          ∀ target, target ∈ targets ↔
            ∃ node, body.Reaches node ∧ node.componentTarget? = some target := by
  rw [afterSchemas_eq]
  constructor
  · rw [names_references, firstOccurrences_of_nodup distinct]
  · intro name body declared
    obtain ⟨targets, found, ascending, members⟩ := exists_targets_references declared
    refine ⟨targets, found, ascending, fun target => ?_⟩
    rw [members, refersTo_iff_of_distinct distinct declared]

/-- A document with references to a declared name, to an undeclared one and out of
the component schemas, and with a parameter that refers to a component schema. -/
def severalReferences : Document where
  components := some
    { schemas :=
        [("Pet", { properties := [("owner", referenceTo "User"), ("tag", referenceTo "Tag"),
            ("other", referenceTo "User")] }),
         ("User", { items := some { reference := some "other.yaml#/User" } })]
      parameters :=
        [("limit", .item { name := some "limit", schema := some (referenceTo "Pet") })] }

theorem references_after_schemas_several :
    severalReferences.schemas.Distinct ∧
      severalReferences.afterSchemas {} = [("Pet", ["Tag", "User"]), ("User", [])] ∧
      (severalReferences.afterSchemas {}).names = severalReferences.schemas.names ∧
      ∀ name body, (name, body) ∈ severalReferences.schemas →
        ∃ targets, (severalReferences.afterSchemas {}).get? name = some targets ∧
          targets.Pairwise (· < ·) ∧ ∀ target, target ∈ targets ↔
            ∃ node, body.Reaches node ∧ node.componentTarget? = some target := by
  have distinct : severalReferences.schemas.Distinct := by decide
  obtain ⟨names, targets⟩ := references_after_schemas severalReferences {} distinct
  have value : severalReferences.afterSchemas {} = [("Pet", ["Tag", "User"]), ("User", [])] := by
    rw [afterSchemas_eq]
    decide
  exact ⟨distinct, value, names, targets⟩

/-- What stands beside a `$ref` is not entered. -/
theorem shadowed_reference_not_entered :
    shadowed.schemas.Distinct ∧ shadowed.Mentions "A" "B" ∧
      (shadowed.afterSchemas {}).get? "A" = some ["C"] := by
  refine ⟨by decide, ?_, ?_⟩
  · exact ⟨{ referenceTo "C" with properties := [("b", referenceTo "B")] }, referenceTo "B",
      by simp [shadowed, schemas, allComponents],
      .single (.property (List.mem_singleton.mpr rfl)), by decide⟩
  · rw [afterSchemas_eq]
    decide

end ApiReview.Document
