import ApiReview.Json.Printer
import ApiReview.Report.Documents
import ApiReview.Review.File
import ApiReview.Settings.Settings

/-!
# Reports

A report lists the documents that were reviewed with the findings about them.
It fails when any finding is an error.  It is printed as text, one line for a
document and one for each finding and a summary at the end, or as JSON.
-/

namespace ApiReview

/-- A document with the findings about it. -/
structure FileReport where
  path : String
  findings : List Finding
deriving Repr

/-- What was found in some documents. -/
abbrev Report := List FileReport

namespace Report

/-- Review the documents that some paths name. -/
def make (s : Settings) (fs : FileSystem) (paths : List String) : Report :=
  (s.discovery.documents fs paths).map fun path => ⟨path, s.rules.reviewFile fs path⟩

/-- The findings about all documents. -/
def findings (r : Report) : List Finding :=
  r.flatMap FileReport.findings

/-- Is any finding an error? -/
def hasErrors (r : Report) : Bool :=
  r.findings.any (·.severity == .error)

/-- The mark in front of a finding. -/
def mark : Severity → String
  | .error => "❌"
  | .warning => "⚠️ "
  | .info => "ℹ️ "

/-- The lines about one document. -/
def fileLines (f : FileReport) : List String :=
  if f.findings.isEmpty then
    ["✅ " ++ f.path]
  else
    ("🔍 " ++ f.path) :: f.findings.map (fun x => "  " ++ mark x.severity ++ " " ++ x.line) ++
      [""]

def lines (r : Report) : List String :=
  r.flatMap fileLines ++ [summaryLine r.findings]

def text (r : Report) : String :=
  String.join (r.lines.map (· ++ "\n"))

open Json (Value)

/-- A report as JSON, made at the given time. -/
def toJson (r : Report) (time : String) : Value :=
  .object
    [("generatedAt", .string time),
     ("files", .array (r.map fun f => .object
       [("path", .string f.path), ("issues", .array (f.findings.map Finding.toJson))])),
     ("errors", .ofNat (countSeverity .error r.findings)),
     ("warnings", .ofNat (countSeverity .warning r.findings)),
     ("infos", .ofNat (countSeverity .info r.findings))]

/-- A report in the layout that is asked for. -/
def print (r : Report) (output : Output) (time : String) : String :=
  match output.format, output.jsonStyle with
  | .text, _ => r.text
  | .json, .pretty => (r.toJson time).pretty ++ "\n"
  | .json, .compact => (r.toJson time).compact ++ "\n"

end Report

end ApiReview
