import ApiReview.Proofs.Checks.Runs
import ApiReview.Proofs.References.Loops

/-!
# Histories of a session

Findings can be pushed, identifiers and loops claimed, references entered and
checks run on a session, in any order and as often as one likes.  Whatever the
history, findings and references only come in addition, a claim succeeds exactly
when nothing like it was claimed before, by hand or by a check, and the runs of
the check of loops never report two loops over the same names.
-/

namespace ApiReview

/-- One thing that can be done to a session. -/
inductive Step where
  | push (finding : Finding)
  | claimOperationId (id : String)
  | claimLoop (key : String)
  | register (name : String)
  | addReference (source target : String)
  | run (check : Check) (listed : check ∈ Check.all) (d : Document)

namespace Session

def step (s : Session) : Step → Session
  | .push finding => s.push finding
  | .claimOperationId id => (s.claimOperationId id).2
  | .claimLoop key => (s.claimLoop key).2
  | .register name => s.register name
  | .addReference source target => s.addReference source target
  | .run check _ d => check.run d s

def steps (s : Session) (history : List Step) : Session :=
  history.foldl step s

end Session

section Growth

/-- One reference map comes from another one by additions. -/
structure ReferenceMap.Grows (m n : ReferenceMap) : Prop where
  names : Table.names m <+: Table.names n
  refersTo : ∀ source target, m.RefersTo source target → n.RefersTo source target
  wellFormed : m.WellFormed → n.WellFormed

namespace ReferenceMap.Grows

variable {m n o : ReferenceMap}

theorem refl (m : ReferenceMap) : m.Grows m :=
  ⟨List.prefix_refl _, fun _ _ refers => refers, id⟩

theorem trans (one : m.Grows n) (two : n.Grows o) : m.Grows o :=
  ⟨one.names.trans two.names, fun _ _ refers => two.refersTo _ _ (one.refersTo _ _ refers),
    fun wellFormed => two.wellFormed (one.wellFormed wellFormed)⟩

theorem register (m : ReferenceMap) (name : String) : m.Grows (m.register name) := by
  refine ⟨?_, fun _ _ => refersTo_register.mpr, WellFormed.register⟩
  rw [names_register]
  split_ifs
  · exact List.prefix_refl _
  · exact List.prefix_append _ _

theorem add (m : ReferenceMap) (source target : String) : m.Grows (m.add source target) := by
  refine ⟨?_, fun _ _ refers => refersTo_add.mpr (Or.inl refers), WellFormed.add⟩
  rw [names_add]
  exact (register m source).names

theorem enter (m : ReferenceMap) (entry : String × Schema) : m.Grows (m.enter entry) := by
  refine ⟨?_, fun _ _ refers => refersTo_enter.mpr (Or.inl refers), WellFormed.enter⟩
  rw [names_enter]
  exact (register m entry.1).names

theorem foldl_enter (m : ReferenceMap) (entries : List (String × Schema)) :
    m.Grows (entries.foldl ReferenceMap.enter m) := by
  induction entries generalizing m with
  | nil => exact refl m
  | cons entry rest ih => exact (enter m entry).trans (ih (m.enter entry))

/-- The targets of a name stay among its targets. -/
theorem targets (grows : m.Grows n) (wellFormed : m.WellFormed) {name : String}
    {targets : List String} (found : Table.get? m name = some targets) :
    ∃ more, Table.get? n name = some more ∧ targets ⊆ more := by
  have entry := Table.mem_of_get? found
  obtain ⟨more, equal⟩ := Option.isSome_iff_exists.mp
    (Table.get?_isSome_iff.mpr (grows.names.subset (Table.mem_names entry)))
  refine ⟨more, equal, fun target member => ?_⟩
  obtain ⟨others, otherEntry, otherMember⟩ := grows.refersTo name target ⟨targets, entry, member⟩
  have distinct := (grows.wellFormed wellFormed).distinct
  rwa [distinct.value_unique (Table.mem_of_get? equal) otherEntry]

end ReferenceMap.Grows

structure Session.Grows (s t : Session) : Prop where
  findings : s.findings <+: t.findings
  references : s.references.Grows t.references

theorem Session.grows_step (s : Session) (step : Step) : s.Grows (s.step step) := by
  cases step with
  | push finding => exact ⟨List.prefix_append _ _, .refl _⟩
  | claimOperationId id =>
      rw [Session.step, claimOperationId_eq]
      split_ifs <;> exact ⟨List.prefix_refl _, .refl _⟩
  | claimLoop key =>
      rw [Session.step, claimLoop]
      split_ifs <;> exact ⟨List.prefix_refl _, .refl _⟩
  | register name => exact ⟨List.prefix_refl _, .register _ name⟩
  | addReference source target => exact ⟨List.prefix_refl _, .add _ source target⟩
  | run check listed d =>
      refine ⟨?_, ?_⟩
      · rw [Session.step, Check.findings_run listed]
        exact List.prefix_append _ _
      · rw [Session.step]
        by_cases isSchemas : check.name = Checks.schemas.name
        · rw [Check.eq_of_name listed Check.schemas_mem_all isSchemas, Checks.schemas_run]
          exact .foldl_enter _ d.schemas
        · rw [Check.references_run listed isSchemas]
          exact .refl _

/-- Nothing that was pushed or entered is lost along a history. -/
theorem Session.grows_steps (s : Session) (history : List Step) : s.Grows (s.steps history) := by
  induction history generalizing s with
  | nil => exact ⟨List.prefix_refl _, .refl _⟩
  | cons step rest ih =>
      have first := s.grows_step step
      have later := ih (s.step step)
      exact ⟨first.findings.trans later.findings, first.references.trans later.references⟩

end Growth

section OperationIds

/-- The identifiers that a step claims: the check of paths claims those of all
operations that declare one. -/
def Step.claimedIds : Step → List String
  | .claimOperationId id => [id]
  | .run check _ d =>
      if check.name = Checks.paths.name then Checks.claimedIds d.operations else []
  | _ => []

namespace Session

variable {s : Session} {key : String} {history : List Step}

theorem mem_operationIds_step (step : Step) :
    key ∈ (s.step step).operationIds ↔
      key ∈ s.operationIds ∨ key ∈ step.claimedIds.map Text.lower := by
  cases step with
  | claimOperationId id =>
      rw [Session.step, mem_operationIds_claimOperationId]
      simp [Step.claimedIds, eq_comm]
  | claimLoop key =>
      rw [Session.step, claimLoop]
      split_ifs <;> simp [Step.claimedIds]
  | run check listed d =>
      rw [Session.step, Step.claimedIds]
      split_ifs with isPaths
      · rw [Check.eq_of_name listed Check.paths_mem_all isPaths]
        exact Checks.mem_operationIds_pathsUpTo
      · simp [Check.operationIds_run listed isPaths]
  | _ => simp [Session.step, Step.claimedIds, push, register, addReference]

/-- The claimed identifiers are those that the steps claim, by hand or by a check. -/
theorem mem_operationIds_steps :
    key ∈ (s.steps history).operationIds ↔
      key ∈ s.operationIds ∨ key ∈ (history.flatMap Step.claimedIds).map Text.lower := by
  induction history generalizing s with
  | nil => simp [steps]
  | cons step rest ih =>
      rw [List.flatMap_cons, List.map_append, List.mem_append, ← or_assoc,
        ← mem_operationIds_step]
      exact ih

end Session

end OperationIds

section ReportedLoops

open Checks (hasSeveralNames loopReport)

namespace Session

/-- The keys that a step claims: the check of loops claims those of all loops with
several names. -/
def claimedKeys (s : Session) : Step → List String
  | .claimLoop key => [key]
  | .run check _ _ =>
      if check.name = Checks.loops.name then
        (s.references.loops.filter hasSeveralNames).map Loop.key
      else []
  | _ => []

def keysAlong : Session → List Step → List String
  | _, [] => []
  | s, step :: rest => s.claimedKeys step ++ (s.step step).keysAlong rest

def stepLoops (s : Session) : Step → List Loop
  | .run check _ _ =>
      if check.name = Checks.loops.name then
        Checks.reportedLoops s.reportedLoops s.references.loops
      else []
  | _ => []

def loopsAlong : Session → List Step → List Loop
  | _, [] => []
  | s, step :: rest => s.stepLoops step ++ (s.step step).loopsAlong rest

/-- The findings of the runs of the check of loops along a history. -/
def loopFindings : Session → List Step → List Finding
  | _, [] => []
  | s, .run check listed d :: rest =>
      (if check.name = Checks.loops.name then check.added d s else []) ++
        (s.step (.run check listed d)).loopFindings rest
  | s, step :: rest => (s.step step).loopFindings rest

variable {s : Session} {key : String} {history : List Step}

theorem mem_reportedLoops_step (step : Step) :
    key ∈ (s.step step).reportedLoops ↔ key ∈ s.reportedLoops ∨ key ∈ s.claimedKeys step := by
  cases step with
  | claimLoop other =>
      rw [Session.step, claimLoop, claimedKeys, List.mem_singleton]
      split_ifs with known
      · constructor
        · exact Or.inl
        · rintro (member | rfl)
          · exact member
          · simpa using known
      · rw [List.mem_cons, or_comm]
  | claimOperationId id =>
      rw [Session.step, claimOperationId_eq]
      split_ifs <;> simp [claimedKeys]
  | run check listed d =>
      rw [Session.step, claimedKeys]
      split_ifs with isLoops
      · rw [Check.eq_of_name listed Check.loops_mem_all isLoops]
        exact Checks.mem_reportedLoops_foldl_reportLoop
      · simp [Check.reportedLoops_run listed isLoops]
  | _ => simp [Session.step, claimedKeys, push, register, addReference]

/-- The claimed keys are those that the steps claim, by hand or by a check. -/
theorem mem_reportedLoops_steps :
    key ∈ (s.steps history).reportedLoops ↔
      key ∈ s.reportedLoops ∨ key ∈ s.keysAlong history := by
  induction history generalizing s with
  | nil => simp [steps, keysAlong]
  | cons step rest ih =>
      rw [keysAlong, List.mem_append, ← or_assoc, ← mem_reportedLoops_step]
      exact ih

theorem loopFindings_eq : s.loopFindings history = (s.loopsAlong history).map loopReport := by
  induction history generalizing s with
  | nil => rfl
  | cons step rest ih =>
      rw [loopsAlong, List.map_append, ← ih]
      cases step with
      | run check listed d =>
          rw [loopFindings, stepLoops]
          split_ifs with isLoops
          · obtain rfl := Check.eq_of_name listed Check.loops_mem_all isLoops
            rw [Check.added_loops]
          · rfl
      | _ => rfl

/-- The keys of the loops that a step reports are claimed by it, for the first
time and once. -/
theorem stepLoops_fresh (step : Step) :
    ((s.stepLoops step).map Loop.key).Nodup ∧
      ∀ key ∈ (s.stepLoops step).map Loop.key,
        key ∉ s.reportedLoops ∧ key ∈ (s.step step).reportedLoops := by
  cases step with
  | run check listed d =>
      rw [stepLoops]
      split_ifs with isLoops
      · refine ⟨Checks.nodup_keys_reportedLoops, fun key member => ⟨?_, ?_⟩⟩
        · exact (Checks.mem_keys_reportedLoops.mp member).1
        · rw [Session.step, Check.eq_of_name listed Check.loops_mem_all isLoops,
            Checks.loops_run]
          exact List.mem_append_left _ (List.mem_reverse.mpr member)
      · simp
  | _ => simp [stepLoops]

/-- The loops reported along a history have different keys, none of which was
claimed before. -/
theorem loopsAlong_fresh :
    ((s.loopsAlong history).map Loop.key).Nodup ∧
      ∀ key ∈ (s.loopsAlong history).map Loop.key, key ∉ s.reportedLoops := by
  induction history generalizing s with
  | nil => simp [loopsAlong]
  | cons step rest ih =>
      obtain ⟨distinct, fresh⟩ := s.stepLoops_fresh step
      obtain ⟨laterDistinct, laterFresh⟩ := ih (s := s.step step)
      rw [loopsAlong, List.map_append]
      constructor
      · refine List.Nodup.append distinct laterDistinct ?_
        intro key now later
        exact laterFresh key later (fresh key now).2
      · intro key member claimed
        rcases List.mem_append.mp member with now | later
        · exact (fresh key now).1 claimed
        · exact laterFresh key later ((mem_reportedLoops_step step).mpr (Or.inl claimed))

/-- The loops reported along a history are closed walks through distinct names,
along references that are there in the end. -/
theorem exists_of_mem_loopsAlong (wellFormed : s.references.WellFormed) {loop : Loop}
    (reported : loop ∈ s.loopsAlong history) :
    ∃ first rest, loop = first :: rest ++ [first] ∧ (first :: rest).Nodup ∧
      loop.IsChain (s.steps history).references.RefersTo := by
  induction history generalizing s with
  | nil => simp [loopsAlong] at reported
  | cons step rest ih =>
      -- A loop of the first step is a loop of its references, which only grow later.
      rcases List.mem_append.mp reported with now | later
      · have listed : loop ∈ s.references.loops := by
          cases step with
          | run check _ d =>
              rw [stepLoops] at now
              split_ifs at now
              · exact Checks.reportedLoops_sublist.subset now
              · simp at now
          | _ => simp [stepLoops] at now
        obtain ⟨first, others, rfl, elementary, -⟩ := wellFormed.mem_loops.mp listed
        obtain ⟨distinct, chain⟩ := isElementaryCycle_cons.mp elementary
        have grows := (s.grows_steps (step :: rest)).references
        exact ⟨first, others, rfl, distinct, chain.imp grows.refersTo⟩
      · exact ih ((s.grows_step step).references.wellFormed wellFormed) later

end Session

end ReportedLoops

open Checks (claimedIds declaredOperationId? hasSeveralNames loopReport reportLoop)

/-- What is known of a session that was started under a policy and has the given
history. -/
structure Session.KeepsAccount (s : Session) (p : Policy) (history : List Step) : Prop where
  /-- Findings come in behind those that are there. -/
  findings : ∀ step, s.findings <+: (s.step step).findings
  /-- Sources of references come in behind those that are there. -/
  sources : ∀ step, s.references.names <+: (s.step step).references.names
  /-- No name loses a target. -/
  targets : ∀ step name targets, s.references.get? name = some targets →
    ∃ more, (s.step step).references.get? name = some more ∧ targets ⊆ more
  /-- An identifier is claimed once, ignoring case. -/
  operationId : ∀ id, (s.claimOperationId id).1 = true ↔
    ∀ earlier ∈ history.flatMap Step.claimedIds, Text.lower earlier ≠ Text.lower id
  /-- This includes the claims inside of a run of the check of paths. -/
  operationIdInRun : ∀ d first site later id, d.operations = first ++ site :: later →
    declaredOperationId? site.operation = some id →
    (∃ owners, Checks.paths.run d s =
      Checks.checkOperations d (site :: later) owners (Checks.pathsUpTo d first s)) ∧
    (((Checks.pathsUpTo d first s).claimOperationId id).1 = true ↔
      ∀ earlier ∈ history.flatMap Step.claimedIds ++ claimedIds first,
        Text.lower earlier ≠ Text.lower id)
  /-- The key of a loop is claimed once. -/
  loopKey : ∀ key, (s.claimLoop key).1 = true ↔ key ∉ (Session.start p).keysAlong history
  /-- This includes the claims inside of a run of the check of loops. -/
  loopKeyInRun : ∀ d first loop later, s.references.loops = first ++ loop :: later →
    Checks.loops.run d s = (loop :: later).foldl reportLoop (first.foldl reportLoop s) ∧
    (((first.foldl reportLoop s).claimLoop loop.key).1 = true ↔
      loop.key ∉ (Session.start p).keysAlong history ++
        (first.filter hasSeveralNames).map Loop.key)
  /-- The runs of the check of loops report loops over different sets of names. -/
  reports : ∃ loops : List Loop,
    (Session.start p).loopFindings history = loops.map loopReport ∧
    (loops.map List.toFinset).Nodup ∧
    ∀ loop ∈ loops, ∃ first rest, loop = first :: rest ++ [first] ∧ (first :: rest).Nodup ∧
      loop.IsChain s.references.RefersTo

theorem Session.claimOperationId_fst (s : Session) (id : String) :
    (s.claimOperationId id).1 = true ↔ Text.lower id ∉ s.operationIds := by
  rw [claimOperationId_eq]
  split_ifs with known <;> simp [known]

theorem Session.claimLoop_fst (s : Session) (key : String) :
    (s.claimLoop key).1 = true ↔ key ∉ s.reportedLoops := by
  rw [claimLoop]
  split_ifs with known <;> simpa using known

/-- Whatever is done to a session, it keeps account of it. -/
theorem Session.steps_keepsAccount (p : Policy) (history : List Step) :
    ((Session.start p).steps history).KeepsAccount p history where
  findings step := (grows_step _ step).findings
  sources step := (grows_step _ step).references.names
  targets step name targets found := by
    have wellFormed := ((Session.start p).grows_steps history).references.wellFormed
      ReferenceMap.WellFormed.nil
    exact (grows_step _ step).references.targets wellFormed found
  operationId id := by
    rw [claimOperationId_fst, mem_operationIds_steps]
    simp [Session.start]
  operationIdInRun d first site later id split _ := by
    refine ⟨Checks.exists_owners_paths_run split, ?_⟩
    rw [claimOperationId_fst, Checks.mem_operationIds_pathsUpTo, mem_operationIds_steps]
    simp only [Session.start, List.not_mem_nil, false_or, ← List.mem_append, ← List.map_append]
    simp only [List.mem_map, not_exists, not_and, ne_eq]
  loopKey key := by
    rw [claimLoop_fst, mem_reportedLoops_steps]
    simp [Session.start]
  loopKeyInRun d first loop later split := by
    constructor
    · rw [← List.foldl_append, ← split]
      rfl
    · rw [claimLoop_fst, Checks.mem_reportedLoops_foldl_reportLoop, mem_reportedLoops_steps,
        List.mem_append]
      simp [Session.start]
  reports := by
    refine ⟨(Session.start p).loopsAlong history, loopFindings_eq, ?_, fun loop =>
      exists_of_mem_loopsAlong ReferenceMap.WellFormed.nil⟩
    refine List.pairwise_map.mpr ?_
    refine (List.pairwise_map.mp loopsAlong_fresh.1).imp fun differ same => ?_
    refine differ (Loop.key_congr fun name => ?_)
    rw [← List.mem_toFinset, same, List.mem_toFinset]

end ApiReview
