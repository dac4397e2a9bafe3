import ApiReview.Reading.FromUntyped

/-!
# The layout of reports

A report is printed as text or as JSON, and JSON is printed pretty or compact.
-/

namespace ApiReview

inductive ReportFormat where
  | text
  | json
deriving DecidableEq, Repr, Inhabited

namespace ReportFormat

/-- All formats, the default one first. -/
def all : List ReportFormat :=
  [.text, .json]

def word : ReportFormat → String
  | .text => "text"
  | .json => "json"

end ReportFormat

/-- The layout of a JSON report. -/
inductive JsonStyle where
  | pretty
  | compact
deriving DecidableEq, Repr, Inhabited

namespace JsonStyle

/-- All layouts, the default one first. -/
def all : List JsonStyle :=
  [.pretty, .compact]

/-- The word for a layout. -/
def word : JsonStyle → String
  | .pretty => "pretty"
  | .compact => "compact"

end JsonStyle

/-- How a report is printed. -/
structure Output where
  format : ReportFormat := .text
  jsonStyle : JsonStyle := .pretty
deriving DecidableEq, Repr, Inhabited

namespace Output

open ApiReview.Field (defaulted)

/-- The layout as settings hold it. -/
def read : FromUntyped Output :=
  Format.record "OutputConfig"
    [defaulted "format" (FromUntyped.choice (ReportFormat.all.map fun f => (f.word, f)))
       fun v o => { o with format := v },
     defaulted "json_style" (FromUntyped.choice (JsonStyle.all.map fun s => (s.word, s)))
       fun v o => { o with jsonStyle := v }]
    {}

/-- The layout as settings print it. -/
def toJson (o : Output) : Json.Value :=
  .object [("format", .string o.format.word), ("json_style", .string o.jsonStyle.word)]

end Output

end ApiReview
