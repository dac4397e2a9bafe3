import ApiReview.Checks.Loops
import ApiReview.Proofs.References.LoopKey

/-!
# Reports of loops

The check of loops goes through the loops one after the other and claims their
keys.  It reports the first loop of every key that was not claimed before,
unless the key holds no comma.
-/

namespace ApiReview.Checks

/-- Is a loop worth a report, as far as its key tells? -/
def hasSeveralNames (loop : Loop) : Bool :=
  Text.contains loop.key ","

/-- The loops that get reported when some keys were claimed before. -/
def reportedLoops (claimed : List String) : List Loop → List Loop
  | [] => []
  | loop :: rest =>
      if hasSeveralNames loop && !claimed.contains loop.key then
        loop :: reportedLoops (loop.key :: claimed) rest
      else reportedLoops claimed rest

/-- The finding about a loop that is written from its first name. -/
def loopReport (loop : Loop) : Finding :=
  loopFinding (loop.headD "") loop

variable {claimed : List String} {listed : List Loop} {loop : Loop} {key : String}

/-- A loop is reported when it is worth it and its key is claimed for the first
time. -/
theorem reportLoop_eq (s : Session) (loop : Loop) :
    reportLoop s loop =
      if hasSeveralNames loop && !s.reportedLoops.contains loop.key then
        { s with
          findings := s.findings ++ [loopReport loop]
          reportedLoops := loop.key :: s.reportedLoops }
      else s := by
  unfold reportLoop hasSeveralNames Session.claimLoop
  cases Text.contains loop.key "," with
  | false => simp
  | true => cases known : s.reportedLoops.contains loop.key <;> simp [Session.push, loopReport]

/-- Going through loops adds the reports of some of them and claims their keys. -/
theorem foldl_reportLoop (s : Session) (listed : List Loop) :
    listed.foldl reportLoop s =
      { s with
        findings := s.findings ++ (reportedLoops s.reportedLoops listed).map loopReport
        reportedLoops :=
          ((reportedLoops s.reportedLoops listed).map Loop.key).reverse ++ s.reportedLoops } := by
  induction listed generalizing s with
  | nil => simp [reportedLoops]
  | cons loop rest ih =>
      rw [List.foldl_cons, ih, reportLoop_eq, reportedLoops]
      split_ifs <;> simp

theorem loops_run (d : Document) (s : Session) :
    loops.run d s =
      { s with
        findings := s.findings ++
          (reportedLoops s.reportedLoops s.references.loops).map loopReport
        reportedLoops :=
          ((reportedLoops s.reportedLoops s.references.loops).map Loop.key).reverse ++
            s.reportedLoops } :=
  foldl_reportLoop s s.references.loops

theorem findings_loops_run (d : Document) (s : Session) :
    (loops.run d s).findings =
      s.findings ++ (reportedLoops s.reportedLoops s.references.loops).map loopReport := by
  rw [loops_run]

theorem reportedLoops_sublist : (reportedLoops claimed listed).Sublist listed := by
  induction listed generalizing claimed with
  | nil => exact List.Sublist.refl []
  | cons loop rest ih =>
      unfold reportedLoops
      split_ifs
      · exact ih.cons_cons loop
      · exact ih.cons loop

/-- The reported keys are those of the loops with several names, apart from the
keys claimed before. -/
theorem mem_keys_reportedLoops :
    key ∈ (reportedLoops claimed listed).map Loop.key ↔
      key ∉ claimed ∧ ∃ loop ∈ listed, hasSeveralNames loop = true ∧ loop.key = key := by
  induction listed generalizing claimed with
  | nil => simp [reportedLoops]
  | cons loop rest ih =>
      unfold reportedLoops
      split_ifs with reported
      · obtain ⟨several, fresh⟩ : hasSeveralNames loop = true ∧ loop.key ∉ claimed := by
          simpa using reported
        rw [List.map_cons, List.mem_cons, ih]
        by_cases same : key = loop.key
        · simp [same, several, fresh]
        · simp [same, Ne.symm same]
      · rw [ih]
        simp only [List.exists_mem_cons_iff]
        refine and_congr_right fun fresh => ⟨Or.inr, ?_⟩
        rintro (⟨several, rfl⟩ | later)
        · exact absurd (by simpa using ⟨several, fresh⟩) reported
        · exact later

theorem nodup_keys_reportedLoops : ((reportedLoops claimed listed).map Loop.key).Nodup := by
  induction listed generalizing claimed with
  | nil => exact List.nodup_nil
  | cons loop rest ih =>
      unfold reportedLoops
      split_ifs
      · refine List.nodup_cons.mpr ⟨?_, ih⟩
        rw [mem_keys_reportedLoops]
        simp
      · exact ih

/-- Going through loops claims the keys of those with several names. -/
theorem mem_reportedLoops_foldl_reportLoop {s : Session} :
    key ∈ (listed.foldl reportLoop s).reportedLoops ↔
      key ∈ s.reportedLoops ∨ key ∈ (listed.filter hasSeveralNames).map Loop.key := by
  rw [foldl_reportLoop, List.mem_append, List.mem_reverse, mem_keys_reportedLoops]
  by_cases known : key ∈ s.reportedLoops <;> simp [known, and_assoc]

end ApiReview.Checks
