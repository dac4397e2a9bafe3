import ApiReview.Proofs.Checks.LoopReports
import ApiReview.Proofs.Checks.Sessions

/-!
# What each check does to a session

Six of the nine checks add findings that depend on the document and on the
switches of the policy, and do nothing else.  The check of paths also claims
operation identifiers and looks at no more of the session than these, the check
of schemas also enters references and looks at nothing, and the check of loops
reads the references and claims the keys of loops.
-/

namespace ApiReview

/-- Policies that switch the checks in the same way; they may filter differently. -/
structure Policy.Alike (p q : Policy) : Prop where
  nullable : p.checkNullableRequiredParameters = q.checkNullableRequiredParameters
  reserved : p.extraReservedWords = q.extraReservedWords

namespace Session

/-- One session in front of another one, of which only the findings and the
claimed operation identifiers are kept. -/
def extend (outer inner : Session) : Session :=
  { outer with
    operationIds := inner.operationIds
    findings := outer.findings ++ inner.findings }

variable {outer s : Session} {id : String}

theorem extend_self (s : Session) : s.extend { operationIds := s.operationIds } = s := by
  simp [extend]

theorem pushAll_extend (findings : List Finding) :
    (outer.extend s).pushAll findings = outer.extend (s.pushAll findings) := by
  simp [extend, pushAll]

theorem push_extend (finding : Finding) :
    (outer.extend s).push finding = outer.extend (s.push finding) :=
  pushAll_extend [finding]

theorem claimOperationId_eq (s : Session) (id : String) :
    s.claimOperationId id =
      if Text.lower id ∈ s.operationIds then (false, s)
      else (true, { s with operationIds := Text.lower id :: s.operationIds }) := by
  simp [claimOperationId]

theorem claimOperationId_extend (id : String) :
    (outer.extend s).claimOperationId id =
      ((s.claimOperationId id).1, outer.extend (s.claimOperationId id).2) := by
  by_cases known : Text.lower id ∈ s.operationIds <;>
    simp [claimOperationId_eq, extend, known]

theorem mem_operationIds_claimOperationId {key : String} :
    key ∈ (s.claimOperationId id).2.operationIds ↔
      key ∈ s.operationIds ∨ Text.lower id = key := by
  rw [claimOperationId_eq]
  split_ifs with known
  · constructor
    · exact Or.inl
    · rintro (member | rfl)
      · exact member
      · exact known
  · rw [List.mem_cons, or_comm, eq_comm]

end Session

namespace Checks

variable {d : Document} {s outer : Session} {p q : Policy} {sites : List OperationSite}
  {owners : Table String} {key : String}

section Paths

/-- The identifiers that some operations claim, in the order of the claims. -/
def claimedIds (sites : List OperationSite) : List String :=
  sites.filterMap fun site => declaredOperationId? site.operation

theorem checkOperationId_extend (site : OperationSite) (owners : Table String) :
    checkOperationId site owners (outer.extend s) =
      ((checkOperationId site owners s).1, outer.extend (checkOperationId site owners s).2) := by
  unfold checkOperationId
  cases declaredOperationId? site.operation with
  | none => simp [Session.push_extend]
  | some id =>
      by_cases valid : isIdentifier id = true
      · simp only [if_pos valid, Session.claimOperationId_extend]
        rcases s.claimOperationId id with ⟨fresh, after⟩
        cases fresh <;> simp [Session.push_extend]
      · simp only [if_neg valid, Session.push_extend, Session.claimOperationId_extend]
        rcases Session.claimOperationId _ id with ⟨fresh, after⟩
        cases fresh <;> simp [Session.push_extend]

theorem checkOperations_extend :
    checkOperations d sites owners (outer.extend s) =
      outer.extend (checkOperations d sites owners s) := by
  induction sites generalizing owners s with
  | nil => rfl
  | cons site rest ih =>
      simp only [checkOperations, Session.pushAll_extend, checkOperationId_extend]
      exact ih

/-- The check of paths on a session in which some identifiers are claimed and
nothing else has happened. -/
def pathsAlone (d : Document) (claimed : List String) : Session :=
  paths.run d { operationIds := claimed }

/-- The check of paths looks at the claimed identifiers only, and changes nothing
but these and the findings. -/
theorem paths_run (d : Document) (s : Session) :
    paths.run d s = s.extend (pathsAlone d s.operationIds) := by
  conv_lhs => rw [← s.extend_self]
  change checkOperations d d.operations [] (Session.pushAll _ _) = _
  rw [Session.pushAll_extend, checkOperations_extend]
  rfl

theorem mem_operationIds_checkOperationId (site : OperationSite) (owners : Table String) :
    key ∈ (checkOperationId site owners s).2.operationIds ↔
      key ∈ s.operationIds ∨ key ∈ (claimedIds [site]).map Text.lower := by
  cases declared : declaredOperationId? site.operation with
  | none => simp [checkOperationId, claimedIds, declared, Session.push]
  | some id =>
      have after : (checkOperationId site owners s).2.operationIds =
          (s.claimOperationId id).2.operationIds := by
        by_cases valid : isIdentifier id = true <;>
          by_cases known : Text.lower id ∈ s.operationIds <;>
            simp [checkOperationId, declared, valid, Session.claimOperationId_eq, Session.push,
              known]
      rw [after, Session.mem_operationIds_claimOperationId]
      simp [claimedIds, declared, eq_comm]

theorem mem_operationIds_checkOperations :
    key ∈ (checkOperations d sites owners s).operationIds ↔
      key ∈ s.operationIds ∨ key ∈ (claimedIds sites).map Text.lower := by
  induction sites generalizing owners s with
  | nil => simp [checkOperations, claimedIds]
  | cons site rest ih =>
      have split : claimedIds (site :: rest) = claimedIds [site] ++ claimedIds rest :=
        List.filterMap_append (l := [site])
      simp only [checkOperations]
      rw [ih, split, List.map_append, List.mem_append, ← or_assoc]
      exact or_congr_left (mem_operationIds_checkOperationId site owners)

theorem exists_owners_checkOperations (first later : List OperationSite) :
    ∃ owners', checkOperations d (first ++ later) owners s =
      checkOperations d later owners' (checkOperations d first owners s) := by
  induction first generalizing owners s with
  | nil => exact ⟨owners, rfl⟩
  | cons site rest ih => exact ih

/-- The session in which the check of paths has looked at some operations. -/
def pathsUpTo (d : Document) (sites : List OperationSite) (s : Session) : Session :=
  checkOperations d sites []
    (s.pushAll (d.paths.flatMap fun (path, item) => pathFindings path item))

theorem mem_operationIds_pathsUpTo :
    key ∈ (pathsUpTo d sites s).operationIds ↔
      key ∈ s.operationIds ∨ key ∈ (claimedIds sites).map Text.lower :=
  mem_operationIds_checkOperations

theorem exists_owners_paths_run {first later : List OperationSite}
    (split : d.operations = first ++ later) :
    ∃ owners, paths.run d s = checkOperations d later owners (pathsUpTo d first s) := by
  change ∃ owners, pathsUpTo d d.operations s = _
  rw [split]
  exact exists_owners_checkOperations first later

end Paths

section Alike

variable {p q : Policy}

theorem namedParameterFindings_congr (alike : p.Alike q) (parameter : Parameter)
    (name location : String) (repeated : Bool) :
    namedParameterFindings p parameter name location repeated =
      namedParameterFindings q parameter name location repeated := by
  unfold namedParameterFindings
  rw [alike.nullable]

theorem parameterFindings_congr (alike : p.Alike q) (owner : String)
    (entries : List (RefOr Parameter)) (index : Nat) (seen : List (String × ParameterPlace)) :
    parameterFindings d p owner entries index seen =
      parameterFindings d q owner entries index seen := by
  induction entries generalizing index seen with
  | nil => rfl
  | cons entry rest ih => simp only [parameterFindings, ih, namedParameterFindings_congr alike]

theorem nameFindings_congr (alike : p.Alike q) (name : String) (owner : Option String) :
    nameFindings p name owner = nameFindings q name owner := by
  unfold nameFindings
  rw [alike.reserved]

theorem namesFindings_congr (alike : p.Alike q) (names : List String) (claimed : Table String) :
    namesFindings p names claimed = namesFindings q names claimed := by
  induction names generalizing claimed with
  | nil => rfl
  | cons name rest ih => simp only [namesFindings, ih, nameFindings_congr alike]

end Alike

end Checks

namespace Check

/-- A check adds findings and does nothing else.  They depend on the document and
on the switches of the policy. -/
structure AddsOnly (check : Check) (findings : Document → Policy → List Finding) : Prop where
  run : ∀ d s, check.run d s = s.pushAll (findings d s.policy)
  congr : ∀ d p q, p.Alike q → findings d p = findings d q

/-- What a check can do to a session: it adds findings only, or it is one of the
three checks that share more of the session. -/
inductive Conduct : Check → Prop
  | plain {check : Check} {findings : Document → Policy → List Finding}
      (adds : check.AddsOnly findings)
      (other : check.name ∉ [Checks.paths.name, Checks.schemas.name, Checks.loops.name]) :
      Conduct check
  | paths : Conduct Checks.paths
  | schemas : Conduct Checks.schemas
  | loops : Conduct Checks.loops

/-- A check whose findings do not even depend on the policy. -/
theorem AddsOnly.of_document {check : Check} {findings : Document → List Finding}
    (run : ∀ d s, check.run d s = s.pushAll (findings d)) :
    check.AddsOnly fun d _ => findings d :=
  ⟨run, fun _ _ _ _ => rfl⟩

theorem addsOnly_parameters : Checks.parameters.AddsOnly fun d p =>
    (d.paths.flatMap fun (path, item) =>
      Checks.parameterFindings d p (Pointer.path path) item.parameters 0 []) ++
    d.operations.flatMap fun site =>
      Checks.parameterFindings d p site.pointer site.operation.parameters 0 [] where
  run _ _ := rfl
  congr _ _ _ alike := by simp only [Checks.parameterFindings_congr alike]

theorem addsOnly_naming :
    Checks.naming.AddsOnly fun d p => Checks.namesFindings p d.schemas.names [] where
  run _ _ := rfl
  congr _ _ _ alike := Checks.namesFindings_congr alike _ _

theorem nodup_names : (all.map Check.name).Nodup := by
  decide

theorem eq_of_name {check other : Check} (listed : check ∈ all) (otherListed : other ∈ all)
    (same : check.name = other.name) : check = other :=
  List.inj_on_of_nodup_map nodup_names listed otherListed same

theorem paths_mem_all : Checks.paths ∈ all := by
  simp [all]

theorem schemas_mem_all : Checks.schemas ∈ all := by
  simp [all]

theorem loops_mem_all : Checks.loops ∈ all := by
  simp [all]

/-- Nothing else happens in any of the checks. -/
theorem conduct {check : Check} (listed : check ∈ all) : check.Conduct := by
  simp only [all, List.mem_cons, List.not_mem_nil, or_false] at listed
  rcases listed with rfl | rfl | rfl | rfl | rfl | rfl | rfl | rfl | rfl
  · exact .plain (.of_document fun _ _ => rfl) (by decide)
  · exact .paths
  · exact .plain addsOnly_parameters (by decide)
  · exact .plain (.of_document fun _ _ => rfl) (by decide)
  · exact .schemas
  · exact .plain addsOnly_naming (by decide)
  · exact .plain (.of_document fun _ _ => rfl) (by decide)
  · exact .plain (.of_document fun _ _ => rfl) (by decide)
  · exact .loops

/-- The findings that a check adds to a session. -/
def added (check : Check) (d : Document) (s : Session) : List Finding :=
  (check.run d s).findings.drop s.findings.length

section Footprint

variable {check : Check} {d : Document} {s t : Session}

theorem added_of_findings {found : List Finding}
    (after : (check.run d s).findings = s.findings ++ found) : check.added d s = found := by
  rw [added, after, List.drop_left]

theorem AddsOnly.added {findings : Document → Policy → List Finding}
    (adds : check.AddsOnly findings) (d : Document) (s : Session) :
    check.added d s = findings d s.policy :=
  added_of_findings (by rw [adds.run, Session.pushAll])

theorem added_paths (d : Document) (s : Session) :
    Checks.paths.added d s = (Checks.pathsAlone d s.operationIds).findings :=
  added_of_findings (by rw [Checks.paths_run, Session.extend])

theorem added_schemas (d : Document) (s : Session) :
    Checks.schemas.added d s = Checks.schemasFindings d :=
  added_of_findings (by rw [Checks.schemas_run])

theorem added_loops (d : Document) (s : Session) :
    Checks.loops.added d s =
      (Checks.reportedLoops s.reportedLoops s.references.loops).map Checks.loopReport :=
  added_of_findings (Checks.findings_loops_run d s)

/-- A check keeps the findings that are there. -/
theorem findings_run (listed : check ∈ all) (d : Document) (s : Session) :
    (check.run d s).findings = s.findings ++ check.added d s := by
  cases check.conduct listed with
  | plain adds other => rw [adds.added, adds.run, Session.pushAll]
  | paths => rw [added_paths, Checks.paths_run, Session.extend]
  | schemas => rw [added_schemas, Checks.schemas_run]
  | loops => rw [added_loops, Checks.findings_loops_run]

theorem policy_run (listed : check ∈ all) (d : Document) (s : Session) :
    (check.run d s).policy = s.policy := by
  cases check.conduct listed with
  | plain adds other => rw [adds.run, Session.pushAll]
  | paths => rw [Checks.paths_run, Session.extend]
  | schemas => rw [Checks.schemas_run]
  | loops => rw [Checks.loops_run]

theorem operationIds_run (listed : check ∈ all) (other : check.name ≠ Checks.paths.name) :
    (check.run d s).operationIds = s.operationIds := by
  cases check.conduct listed with
  | plain adds _ => rw [adds.run, Session.pushAll]
  | paths => exact absurd rfl other
  | schemas => rw [Checks.schemas_run]
  | loops => rw [Checks.loops_run]

theorem references_run (listed : check ∈ all) (other : check.name ≠ Checks.schemas.name) :
    (check.run d s).references = s.references := by
  cases check.conduct listed with
  | plain adds _ => rw [adds.run, Session.pushAll]
  | paths => rw [Checks.paths_run, Session.extend]
  | schemas => exact absurd rfl other
  | loops => rw [Checks.loops_run]

theorem reportedLoops_run (listed : check ∈ all) (other : check.name ≠ Checks.loops.name) :
    (check.run d s).reportedLoops = s.reportedLoops := by
  cases check.conduct listed with
  | plain adds _ => rw [adds.run, Session.pushAll]
  | paths => rw [Checks.paths_run, Session.extend]
  | schemas => rw [Checks.schemas_run]
  | loops => exact absurd rfl other

/-- What a check adds depends on the policy; for the check of paths also on the
claimed identifiers, and for the check of loops on the references and on the
reported loops. -/
theorem added_congr (listed : check ∈ all) (policy : s.policy = t.policy)
    (ids : check.name = Checks.paths.name → s.operationIds = t.operationIds)
    (references : check.name = Checks.loops.name → s.references = t.references)
    (reported : check.name = Checks.loops.name → s.reportedLoops = t.reportedLoops) :
    check.added d s = check.added d t := by
  cases check.conduct listed with
  | plain adds _ => rw [adds.added, adds.added, policy]
  | paths => rw [added_paths, added_paths, ids rfl]
  | schemas => rw [added_schemas, added_schemas]
  | loops => rw [added_loops, added_loops, references rfl, reported rfl]

end Footprint

end Check

end ApiReview
