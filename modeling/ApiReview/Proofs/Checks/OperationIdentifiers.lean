import ApiReview.Proofs.Checks.Operations

/-!
# Identifiers of operations

Every operation without an identifier is reported, and so is every operation whose
identifier was taken by an earlier one, ignoring case.  Of three operations with one
identifier the second and the third are reported, both with the label of the first.
-/

namespace ApiReview

namespace OperationSite

/-- The operation has an identifier with this lower case form, and it is not blank. -/
def Claims (site : OperationSite) (key : String) : Prop :=
  ∃ id, site.operation.operationId = some id ∧ Text.isBlank id = false ∧ Text.lower id = key

end OperationSite

/-- What has to be said about the identifier of the operation at a place of a list. -/
inductive IdentifierReport (sites : List OperationSite) (place : Nat) : List Finding → Prop
  | missing {site : OperationSite} (here : sites[place]? = some site)
      (missing : ∀ id, site.operation.operationId = some id → Text.isBlank id = true) :
      IdentifierReport sites place [site.missingIdentifier]
  | unclaimed {site : OperationSite} {id : String} (here : sites[place]? = some site)
      (given : site.operation.operationId = some id) (filled : Text.isBlank id = false)
      (others : ∀ earlier < place, ∀ other, sites[earlier]? = some other →
        ¬other.Claims (Text.lower id)) :
      IdentifierReport sites place []
  | repeated {site first : OperationSite} {id : String} {start : Nat}
      (here : sites[place]? = some site)
      (given : site.operation.operationId = some id) (filled : Text.isBlank id = false)
      (before : start < place) (there : sites[start]? = some first)
      (claims : first.Claims (Text.lower id))
      (others : ∀ earlier < start, ∀ other, sites[earlier]? = some other →
        ¬other.Claims (Text.lower id)) :
      IdentifierReport sites place [site.repeatedIdentifier id first.label]

open OperationSite (key?)

variable {site : OperationSite} {key id : String} {sites : List OperationSite} {place : Nat}

theorem declaredOperationId?_eq_some_iff {o : Operation} :
    Checks.declaredOperationId? o = some id ↔
      o.operationId = some id ∧ Text.isBlank id = false := by
  simp [Checks.declaredOperationId?, Option.filter_eq_some_iff]

theorem declaredOperationId?_eq_none_iff {o : Operation} :
    Checks.declaredOperationId? o = none ↔
      ∀ id, o.operationId = some id → Text.isBlank id = true := by
  simp [Checks.declaredOperationId?, Option.filter_eq_none_iff]

theorem OperationSite.claims_iff : site.Claims key ↔ site.key? = some key := by
  unfold Claims key?
  simp only [Option.map_eq_some_iff, declaredOperationId?_eq_some_iff, and_assoc]

/-- Is it the finding that there is no identifier, or that it was taken before? -/
def isClaimFinding (finding : Finding) : Bool :=
  finding.rule == .missingOperationId || finding.rule == .duplicateOperationId

theorem identifierReport_filter (here : sites[place]? = some site) :
    IdentifierReport sites place
      ((Checks.identifierFindings (sites.take place) site).filter isClaimFinding) := by
  cases declared : Checks.declaredOperationId? site.operation with
  | none =>
      rw [Checks.identifierFindings_missing declared]
      exact .missing here (declaredOperationId?_eq_none_iff.mp declared)
  | some id =>
      obtain ⟨given, filled⟩ := declaredOperationId?_eq_some_iff.mp declared
      have invalid : (if isIdentifier id then [] else [site.invalidIdentifier id]).filter
          isClaimFinding = [] := by
        split_ifs <;> rfl
      rw [Checks.identifierFindings_declared declared, List.filter_append, invalid,
        List.nil_append]
      cases claimed : claimant? key? (sites.take place) (Text.lower id) with
      | none =>
          refine .unclaimed here given filled fun earlier before other there => ?_
          rw [OperationSite.claims_iff]
          exact claimant?_take_eq_none_iff.mp claimed earlier before other there
      | some first =>
          obtain ⟨start, before, there, claims, others⟩ := claimant?_take_eq_some_iff.mp claimed
          refine .repeated here given filled before there (OperationSite.claims_iff.mpr claims) ?_
          intro earlier less other found
          rw [OperationSite.claims_iff]
          exact others earlier less other found

namespace Checks

variable {earlier : List OperationSite}

/-- An operation is reported as a repeated one when its key was claimed before. -/
theorem length_repeated (earlier : List OperationSite) (site : OperationSite) :
    ((identifierFindings earlier site).filter (·.rule == .duplicateOperationId)).length =
      ((key? site).bind (claimant? key? earlier)).toList.length := by
  cases declared : declaredOperationId? site.operation with
  | none =>
      rw [identifierFindings_missing declared, key?, declared]
      rfl
  | some id =>
      have invalid : (if isIdentifier id then [] else [site.invalidIdentifier id]).filter
          (·.rule == .duplicateOperationId) = [] := by
        split_ifs <;> rfl
      rw [identifierFindings_declared declared, List.filter_append, invalid, List.nil_append,
        key?, declared, Option.map_some, Option.bind_some]
      cases claimant? key? earlier (Text.lower id) <;> rfl

theorem map_lower_claimedIds (sites : List OperationSite) :
    (claimedIds sites).map Text.lower = sites.filterMap key? := by
  unfold claimedIds
  rw [List.map_filterMap]
  rfl

/-- On a fresh session the check of paths reports for each operation in turn that it has no
identifier, or that an earlier operation was the first with its identifier, ignoring case.
The operations that are reported as repeated ones, and the identifiers told apart ignoring
case, are together as many as the operations that have an identifier. -/
theorem identifiers_reported (d : Document) (p : Policy) :
    ∃ reports : List (List Finding),
      (paths.run d (Session.start p)).findings.filter isClaimFinding = reports.flatten ∧
      List.Forall₂ (IdentifierReport d.operations) (List.range d.operations.length) reports ∧
      ((paths.run d (Session.start p)).findings.filter
            (·.rule == .duplicateOperationId)).length +
          ((claimedIds d.operations).map Text.lower).toFinset.card =
        (claimedIds d.operations).length := by
  have onlyClaims : ∀ finding, isClaimFinding finding = true →
      finding.rule ∈ identifierRules := by
    intro finding kept
    rcases Bool.or_eq_true_iff.mp kept with missing | repeated
    · rw [eq_of_beq missing]
      decide
    · rw [eq_of_beq repeated]
      decide
  have onlyRepeats : ∀ finding : Finding, (finding.rule == .duplicateOperationId) = true →
      finding.rule ∈ identifierRules := by
    intro finding repeated
    rw [eq_of_beq repeated]
    decide
  refine ⟨d.operations.zipIdx.map fun (site, place) =>
    (identifierFindings (d.operations.take place) site).filter isClaimFinding, ?_, ?_, ?_⟩
  · rw [filter_identifiers d p onlyClaims]
    rfl
  · rw [List.range_eq_range', ← List.zipIdx_map_snd 0 d.operations, List.forall₂_map_left_iff,
      List.forall₂_map_right_iff, List.forall₂_same]
    rintro ⟨site, place⟩ member
    exact identifierReport_filter (List.mem_zipIdx_iff_getElem?.mp member)
  · have length : (claimedIds d.operations).length = (d.operations.filterMap key?).length := by
      rw [← map_lower_claimedIds, List.length_map]
    rw [filter_identifiers d p onlyRepeats, map_lower_claimedIds, length]
    exact length_inTurn_add_card length_repeated

example :
    ((paths.run
        { paths :=
            [("/a", { get := some { operationId := some "list" },
                      put := some { operationId := some " " } }),
             ("/b", { get := some { operationId := some "List" },
                      post := some { operationId := some "LIST" } })] }
        (Session.start {})).findings.filter isClaimFinding).map (fun finding =>
          (finding.rule, finding.location)) =
      [(.missingOperationId, "#/paths/~1a/put/operationId"),
       (.duplicateOperationId, "#/paths/~1b/get/operationId"),
       (.duplicateOperationId, "#/paths/~1b/post/operationId")] := by
  decide +kernel

end Checks

end ApiReview
