import ApiReview.Number.Power
import ApiReview.Pattern.FromText
import ApiReview.Pattern.Size
import ApiReview.Text.Cut

/-!
# Verdicts on patterns

A pattern is faulty when it breaks the grammar, is nested too deeply, asks for
what it may not ask for, or becomes too large.  Features that only other dialects
have are no fault, nor is any fault of a pattern that names such a feature in its
own text.
-/

namespace ApiReview.Pattern

/-- How many bytes a compiled pattern may take. -/
def maxSize : Nat :=
  10 * twoTo 20

/-- The tree of a pattern in which nothing is wrong apart from its size. -/
def sound (pattern : String) : Except Fault Tree := do
  let tree ← Tree.ofText pattern
  if maxDepth < tree.depth then
    throw .nestedTooDeep
  let _ ← tree.check {}
  return tree

/-- Is the fault about a feature that only other dialects have? -/
def Fault.isForeign : Fault → Bool
  | .lookAround | .backreference => true
  | _ => false

/-- Does the pattern name a feature that only other dialects have? -/
def namesForeign (pattern : String) : Bool :=
  Text.contains pattern "look-around" || Text.contains pattern "backreferences"

/-- Why a pattern is faulty; none for one that is not. -/
def fault? (pattern : String) : Option String :=
  match sound pattern with
  | .error f =>
    if f.isForeign || namesForeign pattern then none else some ("error: " ++ f.message)
  | .ok tree =>
    if maxSize < tree.size then
      some ("Compiled regex exceeds size limit of " ++ toString maxSize ++ " bytes.")
    else
      none

end ApiReview.Pattern
