import ApiReview.Proofs.Review.CircularDependencies

/-!
# Loops that are taken for others

A review knows a loop by its key: loops of the same key are one to it, and a loop
whose key holds no comma is left to the report of self references.  That is what
is meant as long as no name holds a comma.  If one does, a loop over that name
alone passes for a loop of several names, and it may pass for the very loop over
the pieces of the name.
-/

namespace ApiReview

/-- Keys do what they are for in loops over some names: they tell sets of names
apart, and several names from a single one. -/
structure Loop.FaithfulKeys (names : Set String) : Prop where
  apart : ∀ one two : Loop, one ≠ [] → two ≠ [] → (∀ name ∈ one, name ∈ names) →
    (∀ name ∈ two, name ∈ names) → (one.key = two.key ↔ ∀ name, name ∈ one ↔ name ∈ two)
  several : ∀ loop : Loop, loop ≠ [] → (∀ name ∈ loop, name ∈ names) →
    (Text.contains loop.key "," = true ↔ ∃ one ∈ loop, ∃ two ∈ loop, one ≠ two)

theorem Loop.faithfulKeys_iff {names : Set String} :
    FaithfulKeys names ↔ ∀ name ∈ names, CommaFree name := by
  constructor
  · intro faithful name member
    by_contra comma
    have found : Text.contains (key [name]) "," = true :=
      contains_comma_key_iff_or.mpr (.inr ⟨name, List.mem_singleton_self name, comma⟩)
    have alone := faithful.several [name] (List.cons_ne_nil name []) (by simpa using member)
    obtain ⟨one, oneMember, two, twoMember, differ⟩ := alone.mp found
    rw [List.mem_singleton] at oneMember twoMember
    exact differ (oneMember.trans twoMember.symm)
  · intro commaFree
    constructor
    · intro one two oneNonempty twoNonempty oneNames twoNames
      exact key_eq_iff oneNonempty twoNonempty (fun name member => commaFree name
        (oneNames name member)) fun name member => commaFree name (twoNames name member)
    · intro loop _ loopNames
      exact contains_comma_key_iff fun name member => commaFree name (loopNames name member)

namespace Document

open Checks (loopReport)

variable {d : Document}

theorem ne_nil_of_mem_loopsReported {loop : Loop} (member : loop ∈ d.loopsReported) :
    loop ≠ [] :=
  (declared_of_mem_loops (Checks.reportedLoops_sublist.subset member)).1

/-- The reported loops are cut into different pieces. -/
theorem nodup_pieces_loopsReported : (d.loopsReported.map Loop.pieces).Nodup := by
  refine List.pairwise_map.mpr ?_
  refine List.Pairwise.imp_of_mem ?_ (List.pairwise_map.mp Checks.nodup_keys_reportedLoops)
  intro one two oneMember twoMember differ same
  exact differ ((Loop.key_eq_iff_pieces_eq (ne_nil_of_mem_loopsReported oneMember)
    (ne_nil_of_mem_loopsReported twoMember)).mpr same)

theorem mem_pieces_loopsReported {pieces : List (List Char)} :
    pieces ∈ d.loopsReported.map Loop.pieces ↔
      ∃ loop : Loop, loop.pieces = pieces ∧
        ((∃ one ∈ loop, ∃ two ∈ loop, one ≠ two) ∨ ∃ name ∈ loop, ¬CommaFree name) ∧
        ∃ cycle : Cycle String, IsElementaryCycle d.RefersTo cycle ∧
          ∀ name, name ∈ loop ↔ name ∈ cycle := by
  constructor
  · intro member
    obtain ⟨found, reported, rfl⟩ := List.mem_map.mp member
    have listed := Checks.reportedLoops_sublist.subset reported
    have several : Checks.hasSeveralNames found = true := by
      obtain ⟨loop, sameKey, several, -⟩ :=
        mem_keys_loopsReported.mp (List.mem_map_of_mem reported)
      rwa [Checks.hasSeveralNames, ← sameKey]
    exact ⟨found, rfl, Loop.contains_comma_key_iff_or.mp several,
      exists_cycle_of_mem_loops listed⟩
  · rintro ⟨loop, rfl, several, onCycle⟩
    have key : loop.key ∈ d.loopsReported.map Loop.key :=
      mem_keys_loopsReported.mpr ⟨loop, rfl, Loop.contains_comma_key_iff_or.mpr several, onCycle⟩
    obtain ⟨found, reported, sameKey⟩ := List.mem_map.mp key
    have nonempty : loop ≠ [] := by
      rcases several with ⟨name, member, -⟩ | ⟨name, member, -⟩ <;>
        exact List.ne_nil_of_mem member
    have samePieces := (Loop.key_eq_iff_pieces_eq (ne_nil_of_mem_loopsReported reported)
      nonempty).mp sameKey
    exact List.mem_map.mpr ⟨found, reported, samePieces⟩

end Document

/-- Loops have the same key when their names are cut into the same pieces at their
commas, and a key holds a comma when there are two names or a name holds one.  So
keys are faithful exactly as long as no name holds a comma, and a review reports one
circular dependency for each list of pieces that comes from a loop of references,
loops over a single name included if that name holds a comma. -/
theorem Loop.key_pieces (one two : Loop) (oneNonempty : one ≠ []) (twoNonempty : two ≠ []) :
    (one.key = two.key ↔ one.pieces = two.pieces) ∧
      (Text.contains one.key "," = true ↔
        (∃ a ∈ one, ∃ b ∈ one, a ≠ b) ∨ ∃ name ∈ one, ¬CommaFree name) ∧
      (∀ names : Set String, FaithfulKeys names ↔ ∀ name ∈ names, CommaFree name) ∧
      ∀ (d : Document) (p : Policy),
        circularDependencies (d.review p.unfiltered) =
            d.loopsReported.map Checks.loopReport ∧
          (d.loopsReported.map pieces).Nodup ∧
          ∀ cut, cut ∈ d.loopsReported.map pieces ↔
            ∃ loop : Loop, loop.pieces = cut ∧
              ((∃ a ∈ loop, ∃ b ∈ loop, a ≠ b) ∨ ∃ name ∈ loop, ¬CommaFree name) ∧
              ∃ cycle : Cycle String, IsElementaryCycle d.RefersTo cycle ∧
                ∀ name, name ∈ loop ↔ name ∈ cycle := by
  refine ⟨key_eq_iff_pieces_eq oneNonempty twoNonempty, contains_comma_key_iff_or,
    fun names => faithfulKeys_iff, ?_⟩
  intro d p
  refine ⟨Document.circularDependencies_review d p, Document.nodup_pieces_loopsReported, ?_⟩
  intro cut
  exact Document.mem_pieces_loopsReported

/-- A component schema that refers to itself and has a comma in its name. -/
def commaNamed : Document where
  components := some { schemas := [("A,B", Document.referenceTo "A,B")] }

theorem Loop.key_pieces_commaNamed :
    key ["A,B"] = key ["A", "B"] ∧ Text.contains (key ["A,B"]) "," = true ∧
      ¬FaithfulKeys (Set.singleton "A,B") ∧
      pieces ["A", "B"] ∈ commaNamed.loopsReported.map pieces := by
  have comma : ¬CommaFree "A,B" := by decide
  have refers : commaNamed.RefersTo "A,B" "A,B" :=
    ⟨Document.referenceTo "A,B", Document.referenceTo "A,B", List.mem_singleton_self _, .refl, by decide⟩
  have elementary : IsElementaryCycle commaNamed.RefersTo ↑["A,B"] :=
    isElementaryCycle_cons.mpr ⟨by decide, by simp [refers]⟩
  obtain ⟨same, several, faithful, reports⟩ :=
    key_pieces ["A,B"] ["A", "B"] (List.cons_ne_nil _ _) (List.cons_ne_nil _ _)
  have samePieces : pieces ["A,B"] = pieces ["A", "B"] := by decide
  refine ⟨same.mpr samePieces, several.mpr (.inr ⟨"A,B", by simp, comma⟩), ?_, ?_⟩
  · intro keys
    exact comma ((faithful _).mp keys "A,B" rfl)
  · rw [← samePieces]
    exact ((reports commaNamed {}).2.2 _).mpr
      ⟨["A,B"], rfl, .inr ⟨"A,B", by simp, comma⟩, ↑["A,B"], elementary, by simp⟩

end ApiReview
