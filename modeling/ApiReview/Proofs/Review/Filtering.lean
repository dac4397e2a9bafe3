import ApiReview.Proofs.Checks.Runs
import ApiReview.Proofs.Reading.Yields
import ApiReview.Proofs.Review.CircularDependencies

/-!
# What a policy drops

No check looks at the filter of a policy: under two policies that switch the
checks alike, the checks go through the same sessions and add the same findings.
So a review under a policy is the review that filters nothing, less the findings
below the least severity and those of the disabled rules.
-/

namespace ApiReview

theorem Rule.nodup_codes : (all.map code).Nodup := by
  decide +kernel

theorem Rule.code_injective : Function.Injective code := by
  intro one two same
  exact List.inj_on_of_nodup_map nodup_codes (mem_all one) (mem_all two) same

theorem Rule.ofCode?_eq_some_iff {code : String} {rule : Rule} :
    ofCode? code = some rule ↔ code = rule.code := by
  constructor
  · intro found
    exact (code_of_ofCode? found).symm
  · rintro rfl
    have found : (ofCode? rule.code).isSome = true := by
      rw [ofCode?, List.find?_isSome]
      exact ⟨rule, mem_all rule, beq_self_eq_true _⟩
    obtain ⟨other, equal⟩ := Option.isSome_iff_exists.mp found
    rw [equal, code_injective (code_of_ofCode? equal)]

theorem Policy.alike_unfiltered (p : Policy) : p.unfiltered.Alike p :=
  ⟨rfl, rfl⟩

theorem Check.run_policy {check : Check} (listed : check ∈ Check.all) {d : Document}
    {s : Session} {p : Policy} (alike : s.policy.Alike p) :
    check.run d { s with policy := p } = { check.run d s with policy := p } := by
  cases check.conduct listed with
  | plain adds other =>
      rw [adds.run, adds.run, adds.congr d s.policy p alike]
      rfl
  | paths => rw [Checks.paths_run, Checks.paths_run, Session.extend, Session.extend]
  | schemas => rw [Checks.schemas_run, Checks.schemas_run]
  | loops => rw [Checks.loops_run, Checks.loops_run]

theorem Session.runAll_policy {checks : List Check} (listed : ∀ check ∈ checks, check ∈ Check.all)
    {d : Document} {s : Session} {p : Policy} (alike : s.policy.Alike p) :
    Session.runAll { s with policy := p } checks d = { s.runAll checks d with policy := p } := by
  induction checks generalizing s with
  | nil => rfl
  | cons check rest ih =>
      obtain ⟨first, others⟩ := List.forall_mem_cons.mp listed
      have kept : (check.run d s).policy.Alike p := by
        rw [Check.policy_run first]
        exact alike
      simp only [runAll, List.foldl_cons, Check.run_policy first alike]
      exact ih others kept

namespace Document

variable {d : Document} {p q : Policy}

theorem findings_congr (d : Document) (alike : p.Alike q) : d.findings p = d.findings q := by
  have same : Session.runAll { Session.start p with policy := q } Check.all d =
      { (Session.start p).runAll Check.all d with policy := q } :=
    Session.runAll_policy (fun _ listed => listed) alike
  exact (congrArg Session.findings same).symm

end Document

namespace Policy

variable {p : Policy} {rules : List Rule}

theorem mem_disabledRules (parsed : p.disabledRules = .ok rules) {rule : Rule} :
    rule ∈ rules ↔ ∃ code ∈ p.disabled, Text.trim code = rule.code := by
  rw [Except.mem_of_mapM parsed]
  refine exists_congr fun code => and_congr_right fun _ => ?_
  rw [← Rule.ofCode?_eq_some_iff]
  dsimp only
  cases Rule.ofCode? (Text.trim code) <;> simp

/-- Comparing codes as texts drops the findings of the disabled rules. -/
theorem keeps_iff (parsed : p.disabledRules = .ok rules) (finding : Finding) :
    p.keeps finding = true ↔
      p.minSeverity.rank ≤ finding.severity.rank ∧ finding.rule ∉ rules := by
  rw [mem_disabledRules parsed]
  simp [keeps, Severity.atLeast]

theorem keeps_stricter (finding : Finding) (codes : List String) {least : Severity}
    (raised : least.atLeast p.minSeverity = true) :
    keeps { p with disabled := p.disabled ++ codes, minSeverity := least } finding =
      (finding.severity.atLeast least &&
        (codes.all fun code => Text.trim code != finding.rule.code) && p.keeps finding) := by
  cases bad : finding.severity.atLeast least with
  | false => simp [keeps, bad]
  | true =>
      have badEnough := Severity.atLeast_trans bad raised
      simp only [keeps, bad, badEnough, List.any_append, Bool.not_or, Bool.true_and]
      rw [List.not_any_eq_all_not, List.not_any_eq_all_not, Bool.and_comm]
      rfl

end Policy

namespace Document

/-- A review under a policy whose codes are all known is the review that filters
nothing, less the findings below the least severity and those of the disabled
rules.  Which findings are kept is told by the rules alone, and disabling more
codes or raising the least severity drops findings of a review: it adds none,
and keeps the others as they are and in their order. -/
theorem review_eq_filter (d : Document) (p : Policy) {rules : List Rule}
    (parsed : p.disabledRules = .ok rules) :
    d.review p = (d.review p.unfiltered).filter
        (fun finding => finding.severity.atLeast p.minSeverity && !rules.contains finding.rule) ∧
      (∀ finding, p.keeps finding = true ↔
        p.minSeverity.rank ≤ finding.severity.rank ∧ finding.rule ∉ rules) ∧
      ∀ (codes : List String) (least : Severity), least.atLeast p.minSeverity = true →
        d.review { p with disabled := p.disabled ++ codes, minSeverity := least } =
          (d.review p).filter fun finding => finding.severity.atLeast least &&
            codes.all fun code => Text.trim code != finding.rule.code := by
  refine ⟨?_, Policy.keeps_iff parsed, ?_⟩
  · rw [review_unfiltered, findings_congr d p.alike_unfiltered, review]
    refine List.filter_congr fun finding _ => ?_
    rw [Bool.eq_iff_iff, Policy.keeps_iff parsed]
    simp [Severity.atLeast]
  · intro codes least raised
    have alike : Policy.Alike
        { p with disabled := p.disabled ++ codes, minSeverity := least } p := ⟨rfl, rfl⟩
    rw [review, review, findings_congr d alike, List.filter_filter]
    refine List.filter_congr fun finding _ => ?_
    rw [Policy.keeps_stricter finding codes raised]

/-- A policy that disables a rule, with blanks around its code, and drops infos. -/
def paddedPolicy : Policy where
  disabled := ["  MISSING_SERVERS\n"]
  minSeverity := .warning

theorem review_eq_filter_padded :
    paddedPolicy.disabledRules = .ok [.missingServers] ∧
      Severity.error.atLeast paddedPolicy.minSeverity = true ∧
      (Document.review {} paddedPolicy).map (·.rule) =
        [.missingTitle, .missingVersion, .noPaths] ∧
      Document.review {} paddedPolicy =
        (Document.review {} paddedPolicy.unfiltered).filter (fun finding =>
          finding.severity.atLeast .warning && !([Rule.missingServers].contains finding.rule)) ∧
      Document.review {} { paddedPolicy with
          disabled := paddedPolicy.disabled ++ ["NO_PATHS "], minSeverity := .error } =
        (Document.review {} paddedPolicy).filter (fun finding =>
          finding.severity.atLeast .error &&
            ["NO_PATHS "].all fun code => Text.trim code != finding.rule.code) := by
  have parsed : paddedPolicy.disabledRules = .ok [.missingServers] := by rfl
  obtain ⟨filtered, -, stricter⟩ := review_eq_filter {} paddedPolicy parsed
  exact ⟨parsed, rfl, by decide, filtered, stricter ["NO_PATHS "] .error rfl⟩

end Document

end ApiReview
