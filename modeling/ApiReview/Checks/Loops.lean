import ApiReview.Review.ReferenceGraph

/-!
# Loops of references

Every set of two schemas or more that refer to each other in a loop is reported
once.  A schema that refers to itself is reported where its schema is checked.
-/

namespace ApiReview.Checks

/-- The finding about a loop that starts at the given name. -/
def loopFinding (head : String) (loop : Loop) : Finding :=
  let pointer := Pointer.schema head
  (Finding.of .circularDependency
    ("Circular dependency detected: " ++ " -> ".intercalate loop) pointer).about
    head pointer "schema"

/-- Report a loop, unless it has one name only or its key was claimed. -/
def reportLoop (s : Session) (loop : Loop) : Session :=
  if !Text.contains loop.key "," then
    s
  else
    match s.claimLoop loop.key with
    | (false, s) => s
    | (true, s) => s.push (loopFinding (loop.headD "") loop)

def loops : Check where
  name := "dependency-cycles"
  run _ s := s.references.loops.foldl reportLoop s

end ApiReview.Checks
