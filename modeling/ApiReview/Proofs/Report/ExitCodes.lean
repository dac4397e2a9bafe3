import ApiReview.CommandLine.Program
import ApiReview.Proofs.Review.Filtering

/-!
# Exit codes of checks

A check ends with 1 when a document is rejected: there is no text to read, the
text is no document, or a review that filters nothing finds an error of a rule
that is not switched off.  Every error is severe enough for every policy, so
neither the least severity nor the layout of the report has a say in it.
-/

namespace ApiReview

/-- A document makes a check fail. -/
inductive Policy.Rejects (p : Policy) (fs : FileSystem) (path : String) : Prop
  | unreadable {fault : ReadFault} (failed : fs.readText path = .error fault)
  | noDocument {text : String} {failure : LoadFailure} (read : fs.readText path = .ok text)
      (failed : Document.parse text = .error failure)
  | error {text : String} {d : Document} {rules : List Rule} {finding : Finding}
      (read : fs.readText path = .ok text) (parsed : Document.parse text = .ok d)
      (known : p.disabledRules = .ok rules) (found : finding ∈ d.review p.unfiltered)
      (severe : finding.severity = .error) (enabled : finding.rule ∉ rules)

/-- Settings that differ in the least severity and the layout of reports only. -/
structure Settings.JudgeAlike (s t : Settings) : Prop where
  discovery : s.discovery = t.discovery
  disabled : s.rules.disabled = t.rules.disabled
  switches : s.rules.Alike t.rules

/-- Two file systems hold the same documents under some paths. -/
structure Discovery.FindsSame (d : Discovery) (paths : List String) (one two : FileSystem) :
    Prop where
  documents : d.documents one paths = d.documents two paths
  texts : ∀ path ∈ d.documents one paths, one.readText path = two.readText path

theorem Policy.Alike.symm {p q : Policy} (alike : p.Alike q) : q.Alike p :=
  ⟨alike.nullable.symm, alike.reserved.symm⟩

theorem Except.exists_error_of_isOk {ε α : Type} {result : Except ε α}
    (failed : result.isOk = false) : ∃ e, result = .error e := by
  cases result with
  | error e => exact ⟨e, rfl⟩
  | ok a => cases failed

theorem Severity.atLeast_of_error (least : Severity) : Severity.error.atLeast least = true := by
  cases least <;> rfl

theorem ReadFault.severity_finding (fault : ReadFault) (path : String) :
    (fault.finding path).severity = .error := by
  cases fault <;> rfl

namespace Policy

variable {p q : Policy} {rules : List Rule} {fs : FileSystem} {path : String}

theorem keeps_error_iff (parsed : p.disabledRules = .ok rules) {finding : Finding}
    (severe : finding.severity = .error) : p.keeps finding = true ↔ finding.rule ∉ rules := by
  have enough : p.minSeverity.rank ≤ finding.severity.rank := by
    have least := Severity.atLeast_of_error p.minSeverity
    rw [severe]
    simpa [Severity.atLeast] using least
  rw [keeps_iff parsed]
  exact and_iff_right enough

/-- A review under a policy finds an error exactly when the review that filters
nothing finds one of a rule that is not switched off. -/
theorem exists_error_review_iff (parsed : p.disabledRules = .ok rules) (d : Document) :
    (∃ finding ∈ d.review p, finding.severity = .error) ↔
      ∃ finding ∈ d.review p.unfiltered, finding.severity = .error ∧ finding.rule ∉ rules := by
  have same : d.findings p = d.review p.unfiltered := by
    rw [Document.review_unfiltered, Document.findings_congr d p.alike_unfiltered]
  rw [Document.review, same]
  refine exists_congr fun finding => ?_
  constructor
  · rintro ⟨kept, severe⟩
    obtain ⟨found, keeps⟩ := List.mem_filter.mp kept
    exact ⟨found, severe, (keeps_error_iff parsed severe).mp keeps⟩
  · rintro ⟨found, severe, enabled⟩
    have keeps := (keeps_error_iff parsed severe).mpr enabled
    exact ⟨List.mem_filter.mpr ⟨found, keeps⟩, severe⟩

/-- Findings about a file that cannot be read or is no document pass by the
policy; all others have gone through it. -/
theorem exists_error_reviewFile_iff (parsed : p.disabledRules = .ok rules) :
    (∃ finding ∈ p.reviewFile fs path, finding.severity = .error) ↔ p.Rejects fs path := by
  unfold reviewFile
  cases read : fs.readText path with
  | error fault =>
      have rejected : p.Rejects fs path := .unreadable read
      simp [ReadFault.severity_finding, rejected]
  | ok text =>
      dsimp only [reviewText]
      cases loaded : Document.parse text with
      | error failure =>
          have rejected : p.Rejects fs path := .noDocument read loaded
          simp [Finding.of, Rule.severity, Rule.entry, rejected]
      | ok d =>
          rw [exists_error_review_iff parsed]
          constructor
          · rintro ⟨finding, found, severe, enabled⟩
            exact .error read loaded parsed found severe enabled
          · intro rejected
            cases rejected with
            | unreadable failed => simp [read] at failed
            | noDocument again failed =>
                rw [read] at again
                cases again
                simp [loaded] at failed
            | error again loadedAgain known found severe enabled =>
                rw [read] at again
                cases again
                rw [loaded] at loadedAgain
                cases loadedAgain
                rw [parsed] at known
                cases known
                exact ⟨_, found, severe, enabled⟩

theorem Rejects.congr {other : FileSystem} (disabled : p.disabled = q.disabled)
    (alike : p.Alike q) (same : fs.readText path = other.readText path)
    (rejected : p.Rejects fs path) : q.Rejects other path := by
  cases rejected with
  | unreadable failed => exact .unreadable (same ▸ failed)
  | noDocument read failed => exact .noDocument (same ▸ read) failed
  | @error text d rules finding read parsed known found severe enabled =>
      have known' : q.disabledRules = .ok rules := by
        rw [disabledRules, ← disabled]
        exact known
      have unfilteredAlike : p.unfiltered.Alike q.unfiltered := ⟨alike.nullable, alike.reserved⟩
      rw [Document.review_unfiltered, Document.findings_congr d unfilteredAlike,
        ← Document.review_unfiltered] at found
      exact .error (same ▸ read) parsed known' found severe enabled

end Policy

theorem Report.hasErrors_make_iff {s : Settings} {rules : List Rule}
    (parsed : s.rules.disabledRules = .ok rules) (fs : FileSystem) (paths : List String) :
    (Report.make s fs paths).hasErrors = true ↔
      ∃ path ∈ s.discovery.documents fs paths, s.rules.Rejects fs path := by
  have byFile : (Report.make s fs paths).hasErrors = true ↔
      ∃ path ∈ s.discovery.documents fs paths,
        ∃ finding ∈ s.rules.reviewFile fs path, finding.severity = .error := by
    simp [hasErrors, findings, make]
  rw [byFile]
  exact exists_congr fun path => and_congr_right fun _ =>
    Policy.exists_error_reviewFile_iff parsed

/-- Settings that can be loaded switch off rules that exist. -/
theorem Settings.exists_disabledRules_of_load {place : Workplace} {asked : Option String}
    {s : Settings} (loaded : load place asked = .ok s) :
    ∃ rules, s.rules.disabledRules = .ok rules := by
  obtain ⟨layers, -, ofLayers⟩ := Except.bind_eq_ok loaded
  obtain ⟨settings, -, checked⟩ := Except.bind_eq_ok ofLayers
  cases disabled : settings.rules.disabledRules with
  | error code =>
      rw [disabled] at checked
      cases checked
  | ok rules =>
      rw [disabled] at checked
      cases checked
      exact ⟨rules, disabled⟩

namespace Program

variable {place : Workplace} {arguments : List String} {settingsFile : Option String}
  {paths : List String} {format : Option ReportFormat} {minSeverity : Option Severity}
  {s : Settings}

theorem run_check (time : String)
    (asked : Arguments.parse arguments = .ok (.run settingsFile (.check paths format minSeverity)))
    (loaded : Settings.load place settingsFile = .ok s) :
    run place arguments time =
      check (overridden s format minSeverity) place.files paths time := by
  rw [run, asked]
  dsimp only
  rw [loaded]
  rfl

/-- The exit code of a check, as far as the rules and the documents decide it. -/
theorem exitCode_run_iff (time : String)
    (asked : Arguments.parse arguments = .ok (.run settingsFile (.check paths format minSeverity)))
    (loaded : Settings.load place settingsFile = .ok s) :
    ((run place arguments time).exitCode = 1 ↔
      ∃ path ∈ s.discovery.documents place.files paths, s.rules.Rejects place.files path) ∧
    ((run place arguments time).exitCode = 0 ↔
      ¬∃ path ∈ s.discovery.documents place.files paths, s.rules.Rejects place.files path) := by
  obtain ⟨rules, parsed⟩ := Settings.exists_disabledRules_of_load loaded
  have overriddenParsed : (overridden s format minSeverity).rules.disabledRules = .ok rules :=
    parsed
  have fails := Report.hasErrors_make_iff overriddenParsed place.files paths
  have alike : (overridden s format minSeverity).rules.Alike s.rules := ⟨rfl, rfl⟩
  have sameRejects : ∀ path, (overridden s format minSeverity).rules.Rejects place.files path ↔
      s.rules.Rejects place.files path := by
    intro path
    constructor
    · exact Policy.Rejects.congr rfl alike rfl
    · exact Policy.Rejects.congr rfl ⟨rfl, rfl⟩ rfl
  simp only [sameRejects] at fails
  have exits : (run place arguments time).exitCode =
      if (Report.make (overridden s format minSeverity) place.files paths).hasErrors then 1
      else 0 := by
    rw [run_check time asked loaded]
    rfl
  have documents : (overridden s format minSeverity).discovery.documents place.files paths =
      s.discovery.documents place.files paths := rfl
  rw [documents] at fails
  rw [exits, ← fails]
  split_ifs with failed <;> simp [failed]

/-- A check ends with 1 exactly when it rejects a document, and with 0 otherwise.
Another check of the same documents ends alike, whatever the format and the least
severity that its arguments and its settings ask for. -/
theorem exitCode_check (time : String)
    (asked : Arguments.parse arguments = .ok (.run settingsFile (.check paths format minSeverity)))
    (loaded : Settings.load place settingsFile = .ok s) :
    ((run place arguments time).exitCode = 1 ↔
      ∃ path ∈ s.discovery.documents place.files paths, s.rules.Rejects place.files path) ∧
    ((run place arguments time).exitCode = 0 ↔
      ¬∃ path ∈ s.discovery.documents place.files paths, s.rules.Rejects place.files path) ∧
    ∀ (place' : Workplace) (arguments' : List String) (time' : String)
      (settingsFile' : Option String) (format' : Option ReportFormat)
      (minSeverity' : Option Severity) (s' : Settings),
      Arguments.parse arguments' = .ok (.run settingsFile' (.check paths format' minSeverity')) →
      Settings.load place' settingsFile' = .ok s' → s.JudgeAlike s' →
      s.discovery.FindsSame paths place.files place'.files →
      (run place' arguments' time').exitCode = (run place arguments time).exitCode := by
  obtain ⟨fails, passes⟩ := exitCode_run_iff time asked loaded
  refine ⟨fails, passes, ?_⟩
  intro place' arguments' time' settingsFile' format' minSeverity' s' asked' loaded' alike same
  obtain ⟨fails', passes'⟩ := exitCode_run_iff time' asked' loaded'
  have sameDocuments : s'.discovery.documents place'.files paths =
      s.discovery.documents place.files paths := by
    rw [← alike.discovery, same.documents]
  have sameRejects : ∀ path ∈ s.discovery.documents place.files paths,
      (s'.rules.Rejects place'.files path ↔ s.rules.Rejects place.files path) := by
    intro path member
    have sameText := same.texts path member
    constructor
    · exact Policy.Rejects.congr alike.disabled.symm alike.switches.symm sameText.symm
    · exact Policy.Rejects.congr alike.disabled alike.switches sameText
  have sameFailure : (∃ path ∈ s'.discovery.documents place'.files paths,
        s'.rules.Rejects place'.files path) ↔
      ∃ path ∈ s.discovery.documents place.files paths, s.rules.Rejects place.files path := by
    rw [sameDocuments]
    exact exists_congr fun path => and_congr_right fun member => sameRejects path member
  by_cases rejected : ∃ path ∈ s.discovery.documents place.files paths,
      s.rules.Rejects place.files path
  · rw [fails.mpr rejected, fails'.mpr (sameFailure.mpr rejected)]
  · rw [passes.mpr rejected, passes'.mpr (mt sameFailure.mp rejected)]

/-- A file that is no document, where findings about such files are switched off. -/
def brokenPlace (environment : Environment) : Workplace where
  files := { root := [("api.json", .file (.text "\x7b"))] }
  environment := ("OPENAPI_LINT__RULES__DISABLED", "PARSE_ERROR") :: environment

theorem exitCode_check_broken :
    Arguments.parse ["check", "api.json"] = .ok (.run none (.check ["api.json"] none none)) ∧
      Settings.load (brokenPlace []) none =
        .ok { rules := { disabled := ["PARSE_ERROR"] } } ∧
      (run (brokenPlace []) ["check", "api.json"] "").exitCode = 1 ∧
      (run (brokenPlace [("OPENAPI_LINT__OUTPUT__FORMAT", "json")])
        ["check", "api.json", "--min-severity", "error"] "").exitCode = 1 := by
  have asked : Arguments.parse ["check", "api.json"] =
      .ok (.run none (.check ["api.json"] none none)) := by rfl
  have asked' : Arguments.parse ["check", "api.json", "--min-severity", "error"] =
      .ok (.run none (.check ["api.json"] none (some .error))) := by rfl
  have loaded : Settings.load (brokenPlace []) none =
      .ok { rules := { disabled := ["PARSE_ERROR"] } } :=
    Except.eq_ok_of_toOption (by decide +kernel)
  have loaded' : Settings.load (brokenPlace [("OPENAPI_LINT__OUTPUT__FORMAT", "json")]) none =
      .ok { rules := { disabled := ["PARSE_ERROR"] }, output := { format := .json } } :=
    Except.eq_ok_of_toOption (by decide +kernel)
  have listed : "api.json" ∈ Discovery.documents {} (brokenPlace []).files ["api.json"] := by
    decide +kernel
  have noDocument : (Document.parse "\x7b").isOk = false := by decide +kernel
  obtain ⟨failure, failed⟩ := Except.exists_error_of_isOk noDocument
  have rejected : Policy.Rejects { disabled := ["PARSE_ERROR"] } (brokenPlace []).files
      "api.json" := .noDocument (by rfl) failed
  obtain ⟨fails, -, independent⟩ := exitCode_check "" asked loaded
  have first := fails.mpr ⟨"api.json", listed, rejected⟩
  refine ⟨asked, loaded, first, ?_⟩
  rw [← first]
  exact independent _ _ "" none none (some .error) _ asked' loaded' ⟨rfl, rfl, rfl, rfl⟩
    ⟨rfl, fun _ _ => rfl⟩

end Program

end ApiReview
