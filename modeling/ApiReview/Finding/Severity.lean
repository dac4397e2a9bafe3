/-!
# Severities and categories

Severities are ordered from `info` to `error`; a policy drops what is below the
least severity it asks for.
-/

namespace ApiReview

/-- How bad a finding is. -/
inductive Severity where
  | info
  | warning
  | error
deriving DecidableEq, Repr, Inhabited

namespace Severity

/-- The severities from the mildest on. -/
def all : List Severity :=
  [.info, .warning, .error]

def word : Severity → String
  | .info => "info"
  | .warning => "warning"
  | .error => "error"

/-- The rank of a severity, the mildest one lowest. -/
def rank : Severity → Nat
  | .info => 0
  | .warning => 1
  | .error => 2

/-- Is a severity at least as bad as another one? -/
def atLeast (s least : Severity) : Bool :=
  least.rank ≤ s.rank

theorem atLeast_info (s : Severity) : s.atLeast .info = true := by
  cases s <;> rfl

theorem atLeast_trans {a b c : Severity} (h : a.atLeast b = true) (k : b.atLeast c = true) :
    a.atLeast c = true := by
  simp only [atLeast, decide_eq_true_eq] at *
  omega

end Severity

/-- What part of a description a finding is about. -/
inductive Category where
  | structure_
  | schema
  | path
  | operation
  | parameter
  | response
  | security
  | naming
  /-- Allowed by OpenAPI, but bad for generated clients. -/
  | clientGeneration
  | other
deriving DecidableEq, Repr, Inhabited

namespace Category

def all : List Category :=
  [.structure_, .schema, .path, .operation, .parameter, .response, .security, .naming,
    .clientGeneration, .other]

/-- The name of a category in a JSON report. -/
def name : Category → String
  | .structure_ => "Structure"
  | .schema => "Schema"
  | .path => "Path"
  | .operation => "Operation"
  | .parameter => "Parameter"
  | .response => "Response"
  | .security => "Security"
  | .naming => "Naming"
  | .clientGeneration => "KiotaSpecific"
  | .other => "Other"

/-- The word for a category in the list of rules. -/
def word : Category → String
  | .structure_ => "structure"
  | .schema => "schema"
  | .path => "path"
  | .operation => "operation"
  | .parameter => "parameter"
  | .response => "response"
  | .security => "security"
  | .naming => "naming"
  | .clientGeneration => "kiota"
  | .other => "other"

end Category

end ApiReview
