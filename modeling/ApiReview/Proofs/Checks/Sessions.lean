import ApiReview.Proofs.Checks.Rules
import ApiReview.Proofs.Review.EnteredReferences

/-!
# What the checks leave behind

Every check adds findings at the end of those that are there.  The check of
paths also claims operation identifiers and the check of schemas enters the
references of the document, but no check before the last one touches the
reported loops.  So the last check starts with the references of the document,
with no loop reported, and below findings of other rules only.
-/

namespace ApiReview

/-- One session goes on to another one by findings of the given rules, and
perhaps by claims of operation identifiers. -/
def Session.Adds (rules : List Rule) (before after : Session) : Prop :=
  ∃ ids added, FromRules rules added ∧
    after = { before with operationIds := ids, findings := before.findings ++ added }

namespace Session.Adds

variable {rules : List Rule} {first second third : Session} {findings : List Finding}

theorem refl (s : Session) : Adds rules s s :=
  ⟨s.operationIds, [], fromRules_nil, by simp⟩

theorem trans (one : Adds rules first second) (two : Adds rules second third) :
    Adds rules first third := by
  obtain ⟨ids, added, fromRules, rfl⟩ := one
  obtain ⟨ids', added', fromRules', rfl⟩ := two
  exact ⟨ids', added ++ added', fromRules_append.mpr ⟨fromRules, fromRules'⟩, by simp⟩

theorem mono {more : List Rule} (adds : Adds rules first second) (subset : rules ⊆ more) :
    Adds more first second := by
  obtain ⟨ids, added, fromRules, rfl⟩ := adds
  exact ⟨ids, added, fromRules.mono subset, rfl⟩

theorem pushAll (s : Session) (fromRules : FromRules rules findings) :
    Adds rules s (s.pushAll findings) :=
  ⟨s.operationIds, findings, fromRules, rfl⟩

theorem push (s : Session) {finding : Finding} (member : finding.rule ∈ rules) :
    Adds rules s (s.push finding) :=
  pushAll s (fromRules_cons.mpr ⟨member, fromRules_nil⟩)

end Session.Adds

namespace Checks

open Session (Adds)

variable {d : Document} {s : Session}

theorem structure_adds : Adds structureRules s (structure_.run d s) :=
  .pushAll s fromRules_structureFindings

theorem claimOperationId_adds {rules : List Rule} (id : String) :
    Adds rules s (s.claimOperationId id).2 := by
  unfold Session.claimOperationId
  dsimp only
  split_ifs
  · exact .refl s
  · exact ⟨Text.lower id :: s.operationIds, [], fromRules_nil, by simp⟩

theorem checkOperationId_adds (site : OperationSite) (owners : Table String) :
    Adds pathRules s (checkOperationId site owners s).2 := by
  unfold checkOperationId
  dsimp only
  split
  · exact .push s (by simp [pathRules])
  next id _ =>
    have valid : Adds pathRules s (if isIdentifier id then s else
        s.push (.of .invalidOperationId
          ("operationId '" ++ id ++ "' is not a valid identifier " ++
            "(letters, digits, underscore; no leading digit)")
          (site.pointer ++ "/operationId"))) := by
      split_ifs
      · exact .refl s
      · exact .push s (by simp [pathRules])
    have claimed := valid.trans (claimOperationId_adds id)
    split
    next after claim =>
      rw [claim] at claimed
      exact claimed
    next after claim =>
      rw [claim] at claimed
      exact claimed.trans (.push after (by simp [pathRules]))

theorem checkOperations_adds {sites : List OperationSite} {owners : Table String} :
    Adds pathRules s (checkOperations d sites owners s) := by
  induction sites generalizing owners s with
  | nil => exact .refl s
  | cons site rest ih =>
      have parameters : Adds pathRules s (s.pushAll (pathParameterFindings d site)) :=
        .pushAll s (fromRules_pathParameterFindings.mono (by decide))
      have identifier := parameters.trans (checkOperationId_adds site owners)
      have success : FromRules pathRules (successFindings site) :=
        fromRules_successFindings.mono (by decide)
      exact (identifier.trans (.pushAll _ success)).trans ih

theorem paths_adds : Adds pathRules s (paths.run d s) :=
  (Adds.pushAll s (fromRules_flatMap.mpr fun _ _ =>
    fromRules_pathFindings.mono (by decide))).trans checkOperations_adds

theorem parameters_adds : Adds parameterRules s (parameters.run d s) :=
  .pushAll s (fromRules_append.mpr
    ⟨fromRules_flatMap.mpr fun _ _ => fromRules_parameterFindings,
      fromRules_flatMap.mpr fun _ _ => fromRules_parameterFindings⟩)

theorem responses_adds : Adds responseRules s (responses.run d s) := by
  refine .pushAll s (fromRules_append.mpr ⟨fromRules_append.mpr ⟨?_, ?_⟩, ?_⟩)
  · exact fromRules_flatMap.mpr fun _ _ => fromRules_operationBodyFindings
  · exact fromRules_componentFindings fun _ _ => fromRules_requestBodyFindings
  · exact fromRules_componentFindings fun _ _ => fromRules_responseFindings

theorem naming_adds : Adds namingRules s (naming.run d s) :=
  .pushAll s fromRules_namesFindings

theorem security_adds : Adds securityRules s (security.run d s) := by
  refine .pushAll s (fromRules_append.mpr ⟨fromRules_append.mpr ⟨?_, ?_⟩, ?_⟩)
  · exact fromRules_flatMap.mpr fun _ _ => fromRules_schemeFindings
  · exact fromRules_requirementFindings
  · exact fromRules_flatMap.mpr fun _ _ => fromRules_requirementFindings

theorem tags_adds : Adds tagRules s (tags.run d s) :=
  .pushAll s (fromRules_flatMap.mpr fun _ _ => fromRules_tagFindings)

theorem foldl_addReference (s : Session) (name : String) (targets : List String) :
    targets.foldl (fun s target => s.addReference name target) s =
      { s with references := targets.foldl (·.add name) s.references } := by
  induction targets generalizing s with
  | nil => rfl
  | cons target rest ih => exact ih (s.addReference name target)

theorem checkComponentSchema_eq (s : Session) (entry : String × Schema) :
    checkComponentSchema d s entry =
      { s with
        references := s.references.enter entry
        findings := s.findings ++ componentSchemaFindings d entry.1 entry.2 } := by
  unfold checkComponentSchema
  dsimp only
  rw [foldl_addReference]
  rfl

theorem foldl_checkComponentSchema (s : Session) (entries : List (String × Schema)) :
    entries.foldl (checkComponentSchema d) s =
      { s with
        references := entries.foldl ReferenceMap.enter s.references
        findings := s.findings ++ entries.flatMap fun (name, schema) =>
          componentSchemaFindings d name schema } := by
  induction entries generalizing s with
  | nil => simp
  | cons entry rest ih =>
      rw [List.foldl_cons, ih, checkComponentSchema_eq]
      simp

/-- The findings of the check of schemas. -/
def schemasFindings (d : Document) : List Finding :=
  (d.schemas.flatMap fun (name, schema) => componentSchemaFindings d name schema) ++
    d.inlineSchemas.flatMap (inlineSchemaFindings d)

theorem fromRules_schemasFindings : FromRules schemaRules (schemasFindings d) := by
  refine fromRules_append.mpr ⟨?_, ?_⟩
  · exact fromRules_flatMap.mpr fun _ _ => fromRules_componentSchemaFindings
  · exact fromRules_flatMap.mpr fun _ _ => fromRules_inlineSchemaFindings

/-- The check of schemas enters the references and adds its findings. -/
theorem schemas_run (s : Session) :
    schemas.run d s =
      { s with
        references := d.schemas.foldl ReferenceMap.enter s.references
        findings := s.findings ++ schemasFindings d } := by
  change (d.schemas.foldl (checkComponentSchema d) s).pushAll _ = _
  rw [foldl_checkComponentSchema]
  simp [Session.pushAll, schemasFindings]

/-- The rules of all checks but the last one. -/
def earlierRules : List Rule :=
  structureRules ++ pathRules ++ parameterRules ++ responseRules ++ schemaRules ++
    namingRules ++ securityRules ++ tagRules

/-- The session in which the check of schemas is run. -/
def beforeSchemas (d : Document) (p : Policy) : Session :=
  responses.run d (parameters.run d (paths.run d (structure_.run d (Session.start p))))

/-- The session in which the check of loops is run. -/
def beforeLoops (d : Document) (p : Policy) : Session :=
  tags.run d (security.run d (naming.run d (schemas.run d (beforeSchemas d p))))

theorem findings_eq (d : Document) (p : Policy) :
    d.findings p = (loops.run d (beforeLoops d p)).findings := by
  simp only [Document.findings, Check.all, Session.runAll, List.foldl_cons, List.foldl_nil,
    beforeLoops, beforeSchemas]

theorem beforeSchemas_adds (d : Document) (p : Policy) :
    Adds (structureRules ++ pathRules ++ parameterRules ++ responseRules) (Session.start p)
      (beforeSchemas d p) := by
  refine Adds.trans ?_ (responses_adds.mono (by decide))
  refine Adds.trans ?_ (parameters_adds.mono (by decide))
  refine Adds.trans ?_ (paths_adds.mono (by decide))
  exact structure_adds.mono (by decide)

theorem beforeLoops_adds (d : Document) (p : Policy) :
    Adds (namingRules ++ securityRules ++ tagRules) (schemas.run d (beforeSchemas d p))
      (beforeLoops d p) := by
  refine Adds.trans ?_ (tags_adds.mono (by decide))
  refine Adds.trans ?_ (security_adds.mono (by decide))
  exact naming_adds.mono (by decide)

/-- The check of loops starts with the references of the document, with no loop
reported, and below findings of other rules. -/
theorem beforeLoops_spec (d : Document) (p : Policy) :
    (beforeLoops d p).references = d.references ∧ (beforeLoops d p).reportedLoops = [] ∧
      FromRules earlierRules (beforeLoops d p).findings := by
  have addsBefore : Adds earlierRules (Session.start p) (beforeSchemas d p) :=
    (beforeSchemas_adds d p).mono (by decide)
  have addsAfter : Adds earlierRules (schemas.run d (beforeSchemas d p)) (beforeLoops d p) :=
    (beforeLoops_adds d p).mono (by decide)
  obtain ⟨ids, before, fromBefore, first⟩ := addsBefore
  obtain ⟨ids', after, fromAfter, last⟩ := addsAfter
  rw [last, schemas_run, first]
  refine ⟨rfl, rfl, fromRules_append.mpr ⟨fromRules_append.mpr ⟨?_, ?_⟩, fromAfter⟩⟩
  · simpa [Session.start] using fromBefore
  · exact fromRules_schemasFindings.mono (by decide)

end Checks

end ApiReview
