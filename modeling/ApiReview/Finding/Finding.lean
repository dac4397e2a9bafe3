import ApiReview.Finding.Rule
import ApiReview.Reading.FromUntyped

/-!
# Findings

A finding says which rule a document breaks and where.  Findings about a named
component also say which one it is.  The summary of a list of findings counts
them by severity.
-/

namespace ApiReview

structure Finding where
  severity : Severity := .info
  category : Category := .other
  rule : Rule := .unexpectedAnalysisError
  message : String := ""
  /-- The place in the document, as a pointer that may go on with property names. -/
  location : String := ""
  componentName : Option String := none
  componentPath : Option String := none
  componentType : Option String := none
deriving DecidableEq, Repr, Inhabited

namespace Finding

/-- A finding of a rule, with the severity and the category of the rule. -/
def of (rule : Rule) (message location : String) : Finding where
  severity := rule.severity
  category := rule.category
  rule := rule
  message := message
  location := location

/-- The finding together with the component that it is about. -/
def about (f : Finding) (name path type : String) : Finding :=
  { f with componentName := some name, componentPath := some path,
           componentType := some type }

def line (f : Finding) : String :=
  "[" ++ f.rule.code ++ "] " ++ f.severity.word ++ ": " ++ f.message ++
    " (" ++ f.location ++ ")"

open Json (Value)

/-- The finding in a JSON report; the component is left out when there is none. -/
def toJson (f : Finding) : Value :=
  let field (name : String) (text : Option String) : Table Value :=
    (text.map fun s => (name, Value.string s)).toList
  .object <|
    [("severity", .string f.severity.word),
     ("category", .string f.category.name),
     ("code", .string f.rule.code),
     ("message", .string f.message),
     ("location", .string f.location)] ++
    field "componentName" f.componentName ++
    field "componentPath" f.componentPath ++
    field "componentType" f.componentType

open ApiReview.Field (optional needed)

/-- A severity from its word. -/
def readSeverity : FromUntyped Severity :=
  FromUntyped.choice (Severity.all.map fun s => (s.word, s))

/-- A category from its name. -/
def readCategory : FromUntyped Category :=
  FromUntyped.choice (Category.all.map fun c => (c.name, c))

/-- The complaint about a code that no rule has. -/
def unknownCode (code : String) : String :=
  "Unknown issue code: " ++ code

def readRule : FromUntyped Rule := fun v => do
  let code ← FromUntyped.text v
  match Rule.ofCode? code with
  | some rule => .ok rule
  | none => .error (.custom (unknownCode code))

/-- A finding as a JSON report holds it. -/
def read : FromUntyped Finding :=
  Format.record "Issue"
    [needed "severity" readSeverity fun v f => { f with severity := v },
     needed "category" readCategory fun v f => { f with category := v },
     needed "code" readRule fun v f => { f with rule := v },
     needed "message" Format.text fun v f => { f with message := v },
     needed "location" Format.text fun v f => { f with location := v },
     optional "componentName" Format.text fun v f => { f with componentName := v },
     optional "componentPath" Format.text fun v f => { f with componentPath := v },
     optional "componentType" Format.text fun v f => { f with componentType := v }]
    {}

end Finding

def countSeverity (s : Severity) (findings : List Finding) : Nat :=
  findings.countP (·.severity == s)

/-- The line that counts the findings; what is neither an error nor a warning is
an info. -/
def summaryLine (findings : List Finding) : String :=
  let errors := countSeverity .error findings
  let warnings := countSeverity .warning findings
  let infos := findings.length - errors - warnings
  toString errors ++ " error(s), " ++ toString warnings ++ " warning(s), " ++
    toString infos ++ " info(s)"

end ApiReview
