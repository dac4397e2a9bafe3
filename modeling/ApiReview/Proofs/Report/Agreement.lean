import ApiReview.Report.Report
import Mathlib.Algebra.GroupWithZero.Nat
import Mathlib.Data.List.Forall2

/-!
# Text reports and JSON reports

The text of a report counts errors and warnings and takes all other findings for infos;
the JSON report counts each severity for itself.  A finding has one of three severities,
so both come to the same numbers.  Both list the same files with the same findings: a block
of lines in the text and an entry of the list of files in JSON say the same.
-/

namespace ApiReview

open Json (Value)

section Counts

theorem countSeverity_cons (severity : Severity) (f : Finding) (findings : List Finding) :
    countSeverity severity (f :: findings) =
      countSeverity severity findings + if f.severity = severity then 1 else 0 := by
  simp [countSeverity, List.countP_cons]

/-- Each finding is counted under one of the three severities. -/
theorem sum_countSeverity (findings : List Finding) :
    countSeverity .error findings + countSeverity .warning findings +
      countSeverity .info findings = findings.length := by
  induction findings with
  | nil => rfl
  | cons f rest ih =>
      simp only [countSeverity_cons, List.length_cons]
      cases f.severity <;> simp <;> omega

end Counts

namespace Report

/-- The line that gives three counts. -/
def countsLine (errors warnings infos : Nat) : String :=
  toString errors ++ " error(s), " ++ toString warnings ++ " warning(s), " ++
    toString infos ++ " info(s)"

/-- A line of a text report and an issue of a JSON report say the same. -/
inductive SameIssue : String → Value → Prop
  | intro {severity : Severity} {code message location : String} {issue : Value}
      (severe : issue.member? "severity" = some (.string severity.word))
      (coded : issue.member? "code" = some (.string code))
      (said : issue.member? "message" = some (.string message))
      (located : issue.member? "location" = some (.string location)) :
      SameIssue ("  " ++ mark severity ++ " " ++ "[" ++ code ++ "] " ++ severity.word ++ ": " ++
        message ++ " (" ++ location ++ ")") issue

/-- The lines about a file in a text report and its entry in a JSON report say the same: a
file without issues has one line, any other one a line for each issue and an empty one. -/
inductive SameFile : List String → Value → Prop
  | clean {path : String} {entry : Value}
      (named : entry.member? "path" = some (.string path))
      (listed : entry.member? "issues" = some (.array [])) :
      SameFile ["✅ " ++ path] entry
  | flagged {path : String} {lines : List String} {entry issue : Value} {issues : List Value}
      (named : entry.member? "path" = some (.string path))
      (listed : entry.member? "issues" = some (.array (issue :: issues)))
      (same : List.Forall₂ SameIssue lines (issue :: issues)) :
      SameFile (("🔍 " ++ path) :: lines ++ [""]) entry

/-- Is a file marked clean by its lines? -/
def MarkedClean (lines : List String) : Prop :=
  ∃ path, lines = ["✅ " ++ path]

theorem SameFile.markedClean_iff {lines : List String} {entry : Value}
    (same : SameFile lines entry) :
    MarkedClean lines ↔ entry.member? "issues" = some (.array []) := by
  cases same with
  | clean named listed => exact iff_of_true ⟨_, rfl⟩ listed
  | flagged named listed issues =>
      refine iff_of_false ?_ ?_
      · rintro ⟨path, only⟩
        have lengths := congrArg List.length only
        simp at lengths
      · simp [listed]

/-- The entry of a file in a JSON report. -/
def fileEntry (f : FileReport) : Value :=
  .object [("path", .string f.path), ("issues", .array (f.findings.map Finding.toJson))]

theorem sameIssue_finding (f : Finding) :
    SameIssue ("  " ++ mark f.severity ++ " " ++ f.line) f.toJson := by
  have line : "  " ++ mark f.severity ++ " " ++ f.line =
      "  " ++ mark f.severity ++ " " ++ "[" ++ f.rule.code ++ "] " ++ f.severity.word ++ ": " ++
        f.message ++ " (" ++ f.location ++ ")" := by
    simp only [Finding.line, String.append_assoc]
  rw [line]
  exact .intro rfl rfl rfl rfl

theorem sameFile_file (f : FileReport) : SameFile (fileLines f) (fileEntry f) := by
  obtain ⟨path, findings⟩ := f
  cases findings with
  | nil => exact .clean rfl rfl
  | cons finding rest =>
      refine .flagged rfl rfl ?_
      rw [← List.map_cons, List.forall₂_map_left_iff, List.forall₂_map_right_iff]
      exact List.forall₂_same.mpr fun f _ => sameIssue_finding f

theorem summaryLine_eq (findings : List Finding) :
    summaryLine findings = countsLine (countSeverity .error findings)
      (countSeverity .warning findings) (countSeverity .info findings) := by
  have infos : findings.length - countSeverity .error findings -
      countSeverity .warning findings = countSeverity .info findings := by
    have all := sum_countSeverity findings
    omega
  rw [summaryLine, infos]
  rfl

/-- A text report that consists of blocks of lines and of a line with three counts. -/
def textOf (blocks : List (List String)) (errors warnings infos : Nat) : String :=
  String.join ((blocks.flatten ++ [countsLine errors warnings infos]).map (· ++ "\n"))

/-- What a JSON report holds besides its time. -/
structure JsonHolds (json : Value) (entries : List Value) (errors warnings infos : Nat) :
    Prop where
  files : json.member? "files" = some (.array entries)
  errors : json.member? "errors" = some (.ofNat errors)
  warnings : json.member? "warnings" = some (.ofNat warnings)
  infos : json.member? "infos" = some (.ofNat infos)

theorem jsonHolds_toJson (r : Report) (time : String) :
    JsonHolds (r.toJson time) (r.map fileEntry) (countSeverity .error r.findings)
      (countSeverity .warning r.findings) (countSeverity .info r.findings) :=
  ⟨rfl, rfl, rfl, rfl⟩

/-- The text and the JSON of a report agree.  They list the same files with the same issues,
each in the same order, and a file is marked clean exactly when its list of issues is empty.
The three numbers at the end of the text, where no more is taken away than there is, are those
of the JSON report, and together they are the number of all issues. -/
theorem print_agrees (r : Report) (time : String) :
    ∃ (json : Value) (blocks : List (List String)) (entries : List Value)
      (errors warnings infos : Nat),
      (∀ style, r.print ⟨.text, style⟩ time = textOf blocks errors warnings infos) ∧
      r.print ⟨.json, .pretty⟩ time = json.pretty ++ "\n" ∧
      r.print ⟨.json, .compact⟩ time = json.compact ++ "\n" ∧
      JsonHolds json entries errors warnings infos ∧
      List.Forall₂ SameFile blocks entries ∧
      List.Forall₂ (fun lines entry =>
        MarkedClean lines ↔ entry.member? "issues" = some (.array [])) blocks entries ∧
      summaryLine r.findings = countsLine errors warnings infos ∧
      countSeverity .error r.findings + countSeverity .warning r.findings ≤ r.findings.length ∧
      errors + warnings + infos = (r.map fun f => f.findings.length).sum := by
  have all := sum_countSeverity r.findings
  have total : r.findings.length = (r.map fun f => f.findings.length).sum := List.length_flatMap
  have same : List.Forall₂ SameFile (r.map fileLines) (r.map fileEntry) := by
    rw [List.forall₂_map_left_iff, List.forall₂_map_right_iff]
    exact List.forall₂_same.mpr fun f _ => sameFile_file f
  refine ⟨r.toJson time, r.map fileLines, r.map fileEntry, _, _, _, ?_, rfl, rfl,
    jsonHolds_toJson r time, same, same.imp fun _ _ => SameFile.markedClean_iff,
    summaryLine_eq r.findings, by omega, all.trans total⟩
  intro style
  rw [textOf, ← summaryLine_eq, ← List.flatMap_def]
  rfl

end Report

end ApiReview
