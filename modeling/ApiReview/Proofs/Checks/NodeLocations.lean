import ApiReview.Proofs.Checks.Rules
import ApiReview.Proofs.Review.WalkPaths

/-!
# Where nodes are reported

The findings at a visit are located at its path.  The rules about a discriminator and about
the members of an `allOf` are the exceptions: they report below the node.  So a location
leads to one node only, as far as the property names are plain.
-/

namespace ApiReview.Checks

/-- The rules about the discriminator of a node and about the members of its `allOf`. -/
def innerRules : List Rule :=
  [.missingDiscriminatorProperty, .discriminatorPropertyNotRequired,
    .missingDiscriminatorMapping, .invalidDiscriminatorMapping, .invalidAllOfFragment]

/-- The findings of all but the inner rules are located at a path. -/
def LocatedAt (path : String) (findings : List Finding) : Prop :=
  ∀ finding ∈ findings, finding.rule ∉ innerRules → finding.location = path

variable {d : Document} {s : Schema} {path : String} {findings : List Finding}

@[simp]
theorem locatedAt_append {others : List Finding} :
    LocatedAt path (findings ++ others) ↔ LocatedAt path findings ∧ LocatedAt path others :=
  List.forall_mem_append

@[simp]
theorem locatedAt_of {rule : Rule} {message : String} :
    LocatedAt path [.of rule message path] := by
  simp [LocatedAt, Finding.of]

@[simp]
theorem locatedAt_ite {condition : Prop} [Decidable condition] {others : List Finding} :
    LocatedAt path (if condition then findings else others) ↔
      (condition → LocatedAt path findings) ∧ (¬condition → LocatedAt path others) := by
  split <;> simp [*]

end ApiReview.Checks
