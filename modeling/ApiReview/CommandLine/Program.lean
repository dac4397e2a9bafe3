import ApiReview.CommandLine.Arguments
import ApiReview.Report.Report
import ApiReview.Settings.Loading

/-!
# The program

A run of the program prints something and ends with an exit code: 0 when all is
well, 1 when a check found errors, and 2 when there was nothing to run or the
settings could not be loaded.
-/

namespace ApiReview

/-- What a run of the program leaves. -/
structure Outcome where
  exitCode : Nat
  output : String := ""
  errors : String := ""
deriving DecidableEq, Repr

namespace Program

/-- How the program is used. -/
def usage : String :=
  "Find OpenAPI problems that break client code generation\n\n" ++
  "Usage: openapi-lint [--config FILE] COMMAND\n\n" ++
  "Commands:\n" ++
  "  check PATHS...  Analyze files or directories\n" ++
  "                  [--format text|json] [--min-severity info|warning|error]\n" ++
  "  rules           List every issue code\n" ++
  "  config          Print the effective configuration\n"

def ruleLine (r : Rule) : String :=
  Text.padRight 36 r.code ++ " " ++ Text.padRight 8 r.severity.word ++ " " ++
    Text.padRight 14 r.category.word ++ " " ++ r.summary

def ruleList : String :=
  String.join (Rule.all.map fun r => ruleLine r ++ "\n")

/-- What is printed when settings cannot be loaded.  A cause that is not one of
this program is named once more. -/
def settingsError (f : SettingsFailure) : String :=
  let cause :=
    match f with
    | .unknownRule _ => ""
    | _ => ": " ++ f.cause
  "Error: loading configuration: " ++ f.message ++ cause ++ "\n"

/-- The settings with what the arguments override. -/
def overridden (s : Settings) (format : Option ReportFormat)
    (minSeverity : Option Severity) : Settings :=
  { s with
    output := { s.output with format := format.getD s.output.format }
    rules := { s.rules with minSeverity := minSeverity.getD s.rules.minSeverity } }

/-- Check the documents that some paths name. -/
def check (s : Settings) (fs : FileSystem) (paths : List String) (time : String) :
    Outcome :=
  let report := Report.make s fs paths
  { exitCode := if report.hasErrors then 1 else 0
    output := report.print s.output time }

def runCommand (place : Workplace) (s : Settings) (time : String) : Command → Outcome
  | .check paths format minSeverity =>
    check (overridden s format minSeverity) place.files paths time
  | .rules => { exitCode := 0, output := ruleList }
  | .config => { exitCode := 0, output := s.toToml }

/-- Run what the arguments ask for, at the given time. -/
def run (place : Workplace) (arguments : List String) (time : String) : Outcome :=
  match Arguments.parse arguments with
  | .error fault => { exitCode := 2, errors := "error: " ++ fault.message ++ "\n\n" ++ usage }
  | .ok .help => { exitCode := 0, output := usage }
  | .ok (.run settingsFile command) =>
    match Settings.load place settingsFile with
    | .ok s => runCommand place s time command
    | .error f => { exitCode := 2, errors := settingsError f }

end Program

end ApiReview
