import ApiReview.Proofs.Checks.Runs
import ApiReview.Proofs.Review.CircularDependencies

/-!
# The order of the checks

The checks share a session, but each part of it matters to one of them only: the
operation identifiers to the check of paths, the reported loops to the check of
loops, and the references to the check of loops once the check of schemas has
entered them.  So every order in which the check of schemas comes before the
check of loops gives the same findings, check by check, and the same references.
-/

namespace ApiReview

/-- What each of some checks adds when they are run one after the other. -/
def Session.additions (d : Document) : Session → List Check → Table (List Finding)
  | _, [] => []
  | s, check :: rest => (check.name, check.added d s) :: additions d (check.run d s) rest

/-- A fresh session, apart from the references of the document. -/
def Document.entered (d : Document) (p : Policy) : Session :=
  { Session.start p with references := d.references }

/-- The checks that are still to be run find a session as they need it: the check
of loops has the references of the document, or has the check of schemas before
it. -/
structure Session.Awaits (s : Session) (d : Document) (p : Policy) (order : List Check) :
    Prop where
  policy : s.policy = p
  operationIds : Checks.paths.name ∈ order.map Check.name → s.operationIds = []
  reportedLoops : Checks.loops.name ∈ order.map Check.name → s.reportedLoops = []
  references : Checks.loops.name ∈ order.map Check.name →
    s.references = d.references ∧ Checks.schemas.name ∉ order.map Check.name ∨
    s.references = [] ∧ [Checks.schemas, Checks.loops].Sublist order

namespace Session

variable {d : Document} {p : Policy} {s : Session} {check : Check} {rest order : List Check}

theorem Awaits.added (awaits : s.Awaits d p (check :: rest)) (listed : check ∈ Check.all)
    (once : check.name ∉ rest.map Check.name) :
    check.added d s = check.added d (d.entered p) := by
  refine Check.added_congr listed awaits.policy ?_ ?_ ?_
  · intro isPaths
    exact awaits.operationIds (by simp [isPaths])
  · intro isLoops
    rcases awaits.references (by simp [isLoops]) with ⟨entered, -⟩ | ⟨-, later⟩
    · exact entered
    · -- the check of loops would have to come again after the check of schemas
      have again : Checks.loops ∈ rest := by
        cases later with
        | cons _ later => exact later.subset (by simp)
        | cons_cons _ later => exact later.subset (by simp)
      rw [isLoops] at once
      exact absurd (List.mem_map_of_mem again) once
  · intro isLoops
    exact awaits.reportedLoops (by simp [isLoops])

theorem Awaits.run (awaits : s.Awaits d p (check :: rest)) (listed : check ∈ Check.all)
    (once : check.name ∉ rest.map Check.name) : (check.run d s).Awaits d p rest where
  policy := by rw [Check.policy_run listed, awaits.policy]
  operationIds := by
    intro later
    have other : check.name ≠ Checks.paths.name := fun same => once (same ▸ later)
    rw [Check.operationIds_run listed other]
    exact awaits.operationIds (List.mem_cons_of_mem _ later)
  reportedLoops := by
    intro later
    have other : check.name ≠ Checks.loops.name := fun same => once (same ▸ later)
    rw [Check.reportedLoops_run listed other]
    exact awaits.reportedLoops (List.mem_cons_of_mem _ later)
  references := by
    intro later
    rcases awaits.references (List.mem_cons_of_mem _ later) with ⟨entered, done⟩ | ⟨fresh, ordered⟩
    · have other : check.name ≠ Checks.schemas.name := fun same => done (by simp [same])
      rw [Check.references_run listed other]
      exact Or.inl ⟨entered, fun member => done (List.mem_cons_of_mem _ member)⟩
    · cases ordered with
      | cons _ ordered =>
          have schemasLater : Checks.schemas ∈ rest := ordered.subset (by simp)
          have other : check.name ≠ Checks.schemas.name := fun same =>
            once (same ▸ List.mem_map_of_mem schemasLater)
          rw [Check.references_run listed other]
          exact Or.inr ⟨fresh, ordered⟩
      | cons_cons _ ordered =>
          refine Or.inl ⟨?_, once⟩
          rw [Checks.schemas_run, fresh]
          rfl

/-- As long as the checks find the session as they need it, each adds what it
adds to a fresh session with the references of the document. -/
theorem Awaits.additions (awaits : s.Awaits d p order) (listed : ∀ check ∈ order, check ∈ Check.all)
    (distinct : (order.map Check.name).Nodup) :
    Session.additions d s order =
      order.map fun check => (check.name, check.added d (d.entered p)) := by
  induction order generalizing s with
  | nil => rfl
  | cons check rest ih =>
      obtain ⟨first, others⟩ := List.forall_mem_cons.mp listed
      obtain ⟨once, restDistinct⟩ := List.nodup_cons.mp distinct
      rw [Session.additions, awaits.added first once, List.map_cons,
        ih (awaits.run first once) others restDistinct]

theorem awaits_start (schemasFirst : [Checks.schemas, Checks.loops].Sublist order) :
    (Session.start p).Awaits d p order where
  policy := rfl
  operationIds _ := rfl
  reportedLoops _ := rfl
  references _ := Or.inr ⟨rfl, schemasFirst⟩

theorem findings_runAll (listed : ∀ check ∈ order, check ∈ Check.all) :
    (s.runAll order d).findings = s.findings ++ (Session.additions d s order).flatMap (·.2) := by
  induction order generalizing s with
  | nil => simp [runAll, Session.additions]
  | cons check rest ih =>
      obtain ⟨first, others⟩ := List.forall_mem_cons.mp listed
      have after := ih (s := check.run d s) others
      rw [Check.findings_run first, List.append_assoc] at after
      exact after

theorem references_runAll (listed : ∀ check ∈ order, check ∈ Check.all)
    (distinct : (order.map Check.name).Nodup) :
    (s.runAll order d).references =
      if Checks.schemas.name ∈ order.map Check.name then
        d.schemas.foldl ReferenceMap.enter s.references
      else s.references := by
  induction order generalizing s with
  | nil => rfl
  | cons check rest ih =>
      obtain ⟨first, others⟩ := List.forall_mem_cons.mp listed
      obtain ⟨once, restDistinct⟩ := List.nodup_cons.mp distinct
      have after := ih (s := check.run d s) others restDistinct
      simp only [List.map_cons, List.mem_cons]
      by_cases isSchemas : check.name = Checks.schemas.name
      · rw [isSchemas] at once
        rw [if_neg once] at after
        rw [if_pos (Or.inl isSchemas.symm)]
        refine after.trans ?_
        rw [Check.eq_of_name first Check.schemas_mem_all isSchemas, Checks.schemas_run]
      · rw [Check.references_run first isSchemas] at after
        simp only [Ne.symm isSchemas, false_or]
        exact after

end Session

theorem Check.schemas_before_loops : [Checks.schemas, Checks.loops].Sublist Check.all :=
  .cons _ <| .cons _ <| .cons _ <| .cons _ <| .cons_cons _ <| .cons _ <| .cons _ <| .cons _ <|
    .cons_cons _ .slnil

namespace Document

variable {d : Document} {p : Policy} {order : List Check}

theorem additions_eq (d : Document) (p : Policy) (reordered : order.Perm Check.all)
    (schemasFirst : [Checks.schemas, Checks.loops].Sublist order) :
    Session.additions d (Session.start p) order =
      order.map fun check => (check.name, check.added d (d.entered p)) := by
  refine (Session.awaits_start schemasFirst).additions (fun check => reordered.mem_iff.mp) ?_
  exact (reordered.map Check.name).nodup_iff.mpr Check.nodup_names

/-- In every order in which the check of schemas comes before the check of loops,
each check adds the same findings as in the fixed order, and the references are
the same in the end; so the findings are those of the fixed order, permuted.
Every check but the check of loops even adds the same findings to a fresh
session. -/
theorem additions_reordered (d : Document) (p : Policy) (reordered : order.Perm Check.all)
    (schemasFirst : [Checks.schemas, Checks.loops].Sublist order) :
    (∀ name, (Session.additions d (Session.start p) order).get? name =
        (Session.additions d (Session.start p) Check.all).get? name) ∧
      ((Session.start p).runAll order d).references =
        ((Session.start p).runAll Check.all d).references ∧
      ((Session.start p).runAll order d).findings.Perm (d.findings p) ∧
      ∀ check ∈ Check.all, check.name ≠ Checks.loops.name →
        (Session.additions d (Session.start p) Check.all).get? check.name =
          some (check.added d (Session.start p)) := by
  have listed : ∀ check ∈ order, check ∈ Check.all := fun check => reordered.mem_iff.mp
  have distinct := (reordered.map Check.name).nodup_iff.mpr Check.nodup_names
  have inOrder := additions_eq d p reordered schemasFirst
  have inFixed := additions_eq d p (List.Perm.refl Check.all) Check.schemas_before_loops
  have perm : (Session.additions d (Session.start p) order).Perm
      (Session.additions d (Session.start p) Check.all) := by
    rw [inOrder, inFixed]
    exact reordered.map _
  have names : ∀ checks : List Check, Table.names
      (checks.map fun check => (check.name, check.added d (d.entered p))) =
        checks.map Check.name := by simp [Table.names]
  refine ⟨?_, ?_, ?_, ?_⟩
  · intro name
    refine Table.Distinct.get?_perm ?_ perm name
    rw [inOrder, Table.Distinct, names]
    exact distinct
  · rw [Session.references_runAll listed distinct,
      Session.references_runAll (fun _ member => member) Check.nodup_names]
    simp only [(reordered.map Check.name).mem_iff]
  · rw [findings, Session.findings_runAll listed,
      Session.findings_runAll fun _ member => member]
    exact (perm.flatMap_right _).append_left _
  · intro check member other
    have alone : check.added d (d.entered p) = check.added d (Session.start p) :=
      Check.added_congr member rfl (fun _ => rfl) (fun same => absurd same other) fun _ => rfl
    rw [inFixed, Table.Distinct.get?_eq_some_iff, List.mem_map]
    · exact ⟨check, member, by rw [alone]⟩
    · rw [Table.Distinct, names]
      exact Check.nodup_names

/-- The checks of schemas, names, security, tags and loops before the others. -/
def schemasFirst : List Check :=
  Check.all.drop 4 ++ Check.all.take 4

theorem additions_reordered_schemasFirst :
    schemasFirst.Perm Check.all ∧ [Checks.schemas, Checks.loops].Sublist schemasFirst ∧
      (∀ name, (Session.additions twoSchemas (Session.start {}) schemasFirst).get? name =
        (Session.additions twoSchemas (Session.start {}) Check.all).get? name) ∧
      ((Session.start {}).runAll schemasFirst twoSchemas).findings.Perm
        (twoSchemas.findings {}) ∧
      Checks.naming ∈ Check.all ∧ Checks.naming.name ≠ Checks.loops.name ∧
      (Session.additions twoSchemas (Session.start {}) Check.all).get? Checks.naming.name =
        some (Checks.naming.added twoSchemas (Session.start {})) := by
  have reordered : schemasFirst.Perm Check.all := List.perm_append_comm
  have ordered : [Checks.schemas, Checks.loops].Sublist schemasFirst :=
    .cons_cons _ <| .cons _ <| .cons _ <| .cons _ <| .cons_cons _ <| List.nil_sublist _
  have listed : Checks.naming ∈ Check.all := by simp [Check.all]
  have other : Checks.naming.name ≠ Checks.loops.name := by decide
  obtain ⟨same, -, perm, alone⟩ := additions_reordered twoSchemas {} reordered ordered
  exact ⟨reordered, ordered, same, perm, listed, other, alone _ listed other⟩

end Document

end ApiReview
