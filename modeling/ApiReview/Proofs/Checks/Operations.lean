import ApiReview.Proofs.Checks.Runs
import ApiReview.Proofs.FirstClaims

/-!
# One operation after the other

The check of paths goes through the operations in their order.  For every key, the claimed
identifiers and the table of owners tell the first operation that claimed it.  So what is
found at an operation depends on it and on the operations before it, and on nothing else.
-/

namespace ApiReview

namespace OperationSite

/-- The identifier of an operation in lower case, unless it is absent or blank. -/
def key? (site : OperationSite) : Option String :=
  (Checks.declaredOperationId? site.operation).map Text.lower

def missingIdentifier (site : OperationSite) : Finding :=
  .of .missingOperationId (site.label ++ " has no operationId") (site.pointer ++ "/operationId")

def invalidIdentifier (site : OperationSite) (id : String) : Finding :=
  .of .invalidOperationId
    ("operationId '" ++ id ++ "' is not a valid identifier " ++
      "(letters, digits, underscore; no leading digit)")
    (site.pointer ++ "/operationId")

def repeatedIdentifier (site : OperationSite) (id first : String) : Finding :=
  .of .duplicateOperationId
    ("operationId '" ++ id ++ "' on " ++ site.label ++ " is already used by " ++ first)
    (site.pointer ++ "/operationId")

end OperationSite

open OperationSite (key?)

namespace Checks

variable {d : Document} {s : Session} {earlier later : List OperationSite}
  {site : OperationSite} {owners : Table String} {base : List Finding}

/-- The findings about the identifier of an operation, given the operations before it. -/
def identifierFindings (earlier : List OperationSite) (site : OperationSite) : List Finding :=
  match declaredOperationId? site.operation with
  | none => [site.missingIdentifier]
  | some id =>
    (if isIdentifier id then [] else [site.invalidIdentifier id]) ++
      ((claimant? key? earlier (Text.lower id)).map fun first =>
        site.repeatedIdentifier id first.label).toList

theorem identifierFindings_missing (missing : declaredOperationId? site.operation = none) :
    identifierFindings earlier site = [site.missingIdentifier] := by
  rw [identifierFindings, missing]

theorem identifierFindings_declared {id : String}
    (declared : declaredOperationId? site.operation = some id) :
    identifierFindings earlier site =
      (if isIdentifier id then [] else [site.invalidIdentifier id]) ++
        ((claimant? key? earlier (Text.lower id)).map fun first =>
          site.repeatedIdentifier id first.label).toList := by
  rw [identifierFindings, declared]

/-- The findings about an operation, given the operations before it. -/
def operationFindings (d : Document) (earlier : List OperationSite) (site : OperationSite) :
    List Finding :=
  pathParameterFindings d site ++ identifierFindings earlier site ++ successFindings site

/-- The claimed identifiers and the table of owners tell of each key which operation was the
first to claim it. -/
structure Tracks (earlier : List OperationSite) (owners : Table String) (ids : List String) :
    Prop where
  claimed : ∀ key, key ∈ ids ↔ claimant? key? earlier key ≠ none
  owned : ∀ key, owners.get? key = (claimant? key? earlier key).map OperationSite.label

theorem tracks_start : Tracks [] [] [] where
  claimed := by simp [claimant?]
  owned := by simp [claimant?, Table.get?]

/-- An operation whose key is claimed already, or that has none, changes nothing. -/
theorem Tracks.concat_of_idle {ids : List String} (tracks : Tracks earlier owners ids)
    (idle : ∀ key, key? site = some key → key ∈ ids) : Tracks (earlier ++ [site]) owners ids := by
  have same : ∀ key, claimant? key? (earlier ++ [site]) key = claimant? key? earlier key :=
    claimant?_concat_of_idle fun key claims => (tracks.claimed key).mp (idle key claims)
  constructor
  · intro key
    rw [same]
    exact tracks.claimed key
  · intro key
    rw [same]
    exact tracks.owned key

/-- An operation whose key is not claimed yet becomes its owner. -/
theorem Tracks.concat_of_fresh {ids : List String} {key : String}
    (tracks : Tracks earlier owners ids) (claims : key? site = some key) (fresh : key ∉ ids) :
    Tracks (earlier ++ [site]) (owners.put key site.label) (key :: ids) := by
  have unclaimed : claimant? key? earlier key = none :=
    not_not.mp (mt (tracks.claimed key).mpr fresh)
  constructor
  · intro other
    rw [claimant?_concat_of_fresh claims unclaimed, List.mem_cons, tracks.claimed]
    by_cases same : other = key <;> simp [same]
  · intro other
    rw [claimant?_concat_of_fresh claims unclaimed]
    by_cases same : other = key
    · rw [if_pos same, same, Table.get?_put_self]
      rfl
    · rw [if_neg same, Table.get?_put_of_ne same, tracks.owned]

theorem checkOperationId_missing (missing : declaredOperationId? site.operation = none) :
    checkOperationId site owners s = (owners, s.push site.missingIdentifier) := by
  rw [checkOperationId, missing]
  rfl

theorem checkOperationId_declared {id : String}
    (declared : declaredOperationId? site.operation = some id) :
    let invalid := if isIdentifier id then [] else [site.invalidIdentifier id]
    checkOperationId site owners s =
      if Text.lower id ∈ s.operationIds then
        (owners, s.pushAll (invalid ++
          [site.repeatedIdentifier id ((owners.get? (Text.lower id)).getD "")]))
      else
        (owners.put (Text.lower id) site.label,
          { s.pushAll invalid with operationIds := Text.lower id :: s.operationIds }) := by
  rw [checkOperationId, declared]
  by_cases valid : isIdentifier id = true <;> by_cases known : Text.lower id ∈ s.operationIds <;>
    simp [Session.claimOperationId_eq, Session.push, Session.pushAll, valid, known,
      OperationSite.invalidIdentifier, OperationSite.repeatedIdentifier]

/-- Checking the identifier of one operation adds the findings about it and keeps the books. -/
theorem checkOperationId_tracks (site : OperationSite)
    (tracks : Tracks earlier owners s.operationIds) :
    Tracks (earlier ++ [site]) (checkOperationId site owners s).1
        (checkOperationId site owners s).2.operationIds ∧
      (checkOperationId site owners s).2.findings =
        s.findings ++ identifierFindings earlier site := by
  cases declared : declaredOperationId? site.operation with
  | none =>
      have none : key? site = none := by rw [key?, declared, Option.map_none]
      rw [checkOperationId_missing declared, identifierFindings_missing declared]
      exact ⟨tracks.concat_of_idle (by simp [none]), rfl⟩
  | some id =>
      have claims : key? site = some (Text.lower id) := by rw [key?, declared, Option.map_some]
      rw [checkOperationId_declared declared, identifierFindings_declared declared]
      by_cases known : Text.lower id ∈ s.operationIds
      · obtain ⟨first, found⟩ := Option.ne_none_iff_exists'.mp ((tracks.claimed _).mp known)
        have idle : ∀ key, key? site = some key → key ∈ s.operationIds := by
          rintro key again
          rwa [← Option.some.inj (claims.symm.trans again)]
        have owner : (owners.get? (Text.lower id)).getD "" = first.label := by
          rw [tracks.owned, found, Option.map_some, Option.getD_some]
        rw [if_pos known, owner, found]
        exact ⟨tracks.concat_of_idle idle, rfl⟩
      · have unclaimed : claimant? key? earlier (Text.lower id) = none :=
          not_not.mp (mt (tracks.claimed _).mpr known)
        rw [if_neg known, unclaimed]
        refine ⟨tracks.concat_of_fresh claims known, ?_⟩
        rw [Option.map_none, Option.toList_none, List.append_nil]
        rfl

/-- Checking some more operations lists their findings in turn. -/
theorem checkOperations_tracks (tracks : Tracks earlier owners s.operationIds)
    (listed : s.findings = base ++ inTurn (operationFindings d) earlier) :
    (checkOperations d later owners s).findings =
      base ++ inTurn (operationFindings d) (earlier ++ later) := by
  induction later generalizing earlier owners s with
  | nil => rw [List.append_nil, ← listed, checkOperations]
  | cons site rest ih =>
      obtain ⟨tracksNext, findings⟩ := checkOperationId_tracks
        (s := s.pushAll (pathParameterFindings d site)) site tracks
      rw [checkOperations, List.append_cons]
      generalize checkOperationId site owners _ = after at tracksNext findings
      refine ih tracksNext ?_
      rw [inTurn_concat, ← List.append_assoc, ← listed, Session.findings_pushAll, findings,
        Session.findings_pushAll]
      simp only [operationFindings, List.append_assoc]

/-- On a fresh session the check of paths lists the findings about the paths, and then those
about the operations in turn. -/
theorem findings_paths (d : Document) (p : Policy) :
    (paths.run d (Session.start p)).findings =
      (d.paths.flatMap fun (path, item) => pathFindings path item) ++
        inTurn (operationFindings d) d.operations := by
  let items := d.paths.flatMap fun (path, item) => pathFindings path item
  have listed : ((Session.start p).pushAll items).findings =
      items ++ inTurn (operationFindings d) [] := by
    rw [inTurn_nil, List.append_nil]
    exact List.nil_append _
  calc (paths.run d (Session.start p)).findings
      = (checkOperations d d.operations [] ((Session.start p).pushAll items)).findings := rfl
    _ = items ++ inTurn (operationFindings d) ([] ++ d.operations) :=
        checkOperations_tracks tracks_start listed

/-- The rules of the identifiers of operations. -/
def identifierRules : List Rule :=
  [.missingOperationId, .invalidOperationId, .duplicateOperationId]

theorem fromRules_identifierFindings :
    FromRules identifierRules (identifierFindings earlier site) := by
  cases declared : declaredOperationId? site.operation with
  | none =>
      rw [identifierFindings_missing declared]
      simp [OperationSite.missingIdentifier, identifierRules]
  | some id =>
      rw [identifierFindings_declared declared]
      cases claimant? key? earlier (Text.lower id) <;>
        simp [OperationSite.invalidIdentifier, OperationSite.repeatedIdentifier, identifierRules]

/-- The rules of path parameters. -/
def pathParameterRules : List Rule :=
  [.missingPathParameter, .unusedPathParameter]

section Filtering

variable {keep : Finding → Bool}

/-- Of the findings of the check of paths, those that are about no path come in turn. -/
theorem filter_paths {kept : List Rule} {part : List OperationSite → OperationSite → List Finding}
    (only : ∀ finding, keep finding = true → finding.rule ∈ kept)
    (apart : ∀ rule ∈ [.invalidPathFormat, .emptyPathItem], rule ∉ kept)
    (each : ∀ earlier site, (operationFindings d earlier site).filter keep = part earlier site)
    (p : Policy) :
    (paths.run d (Session.start p)).findings.filter keep = inTurn part d.operations := by
  have items : FromRules [.invalidPathFormat, .emptyPathItem]
      (d.paths.flatMap fun (path, item) => pathFindings path item) :=
    fromRules_flatMap.mpr fun _ _ => fromRules_pathFindings
  rw [findings_paths, List.filter_append, items.filter_eq_nil_of only apart, List.nil_append,
    filter_inTurn]
  simp only [each]

theorem filter_identifiers (d : Document) (p : Policy)
    (only : ∀ finding, keep finding = true → finding.rule ∈ identifierRules) :
    (paths.run d (Session.start p)).findings.filter keep =
      inTurn (fun earlier site => (identifierFindings earlier site).filter keep)
        d.operations := by
  refine filter_paths only (by decide) (fun earlier site => ?_) p
  rw [operationFindings, List.filter_append, List.filter_append,
    fromRules_pathParameterFindings.filter_eq_nil_of only (by decide),
    fromRules_successFindings.filter_eq_nil_of only (by decide), List.nil_append,
    List.append_nil]

/-- What is found about the path parameters of an operation does not depend on the
operations before it. -/
theorem filter_pathParameters (d : Document) (p : Policy)
    (only : ∀ finding, keep finding = true → finding.rule ∈ pathParameterRules) :
    (paths.run d (Session.start p)).findings.filter keep =
      d.operations.flatMap fun site => (pathParameterFindings d site).filter keep := by
  rw [← inTurn_const]
  refine filter_paths only (by decide) (fun earlier site => ?_) p
  rw [operationFindings, List.filter_append, List.filter_append,
    fromRules_identifierFindings.filter_eq_nil_of only (by decide),
    fromRules_successFindings.filter_eq_nil_of only (by decide), List.append_nil,
    List.append_nil]

end Filtering

end Checks

end ApiReview
