import ApiReview.Finding.Finding
import ApiReview.Text.Blank

/-!
# Policies

A policy says which findings are kept, and switches two of the checks.  Findings
of a disabled rule and findings below the least severity are dropped; blanks
around the code of a disabled rule do not count.
-/

namespace ApiReview

structure Policy where
  /-- The codes of the rules that are switched off. -/
  disabled : List String := []
  minSeverity : Severity := .info
  /-- Report parameters that are both required and nullable. -/
  checkNullableRequiredParameters : Bool := false
  /-- Further words that no schema should be named by. -/
  extraReservedWords : List String := []
deriving DecidableEq, Repr, Inhabited

namespace Policy

/-- The disabled rules, or the first code that no rule has. -/
def disabledRules (p : Policy) : Except String (List Rule) :=
  p.disabled.mapM fun code =>
    let trimmed := Text.trim code
    match Rule.ofCode? trimmed with
    | some rule => .ok rule
    | none => .error trimmed

def keeps (p : Policy) (f : Finding) : Bool :=
  f.severity.atLeast p.minSeverity &&
    !p.disabled.any fun code => Text.trim code == f.rule.code

open ApiReview.Field (defaulted)

def read : FromUntyped Policy :=
  Format.record "RuleConfig"
    [defaulted "disabled" (Format.list Format.text) fun v p => { p with disabled := v },
     defaulted "min_severity" Finding.readSeverity fun v p => { p with minSeverity := v },
     defaulted "check_nullable_required_parameters" Format.flag
       fun v p => { p with checkNullableRequiredParameters := v },
     defaulted "extra_reserved_words" (Format.list Format.text)
       fun v p => { p with extraReservedWords := v }]
    {}

open Json (Value)

def toJson (p : Policy) : Value :=
  .object
    [("disabled", .ofTexts p.disabled),
     ("min_severity", .string p.minSeverity.word),
     ("check_nullable_required_parameters", .bool p.checkNullableRequiredParameters),
     ("extra_reserved_words", .ofTexts p.extraReservedWords)]

end Policy

end ApiReview
