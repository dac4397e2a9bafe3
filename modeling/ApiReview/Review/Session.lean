import ApiReview.Settings.Policy
import ApiReview.Text.Casing
import ApiReview.Document.Model

/-!
# The state of a review

A session collects the findings of the checks that were run, the operation
identifiers and reference loops that were claimed, and the references between
component schemas.  A fresh session is used for every document.
-/

namespace ApiReview

/-- The names that each schema refers to, each list ascending and without
repetition; the schemas stand in the order in which they were entered. -/
abbrev ReferenceMap := Table (List String)

namespace ReferenceMap

/-- Put a name into an ascending list, unless it is there. -/
def insertName (name : String) : List String → List String
  | [] => [name]
  | first :: rest =>
    if name < first then name :: first :: rest
    else if name = first then first :: rest
    else first :: insertName name rest

/-- Make sure that a schema has an entry. -/
def register (m : ReferenceMap) (name : String) : ReferenceMap :=
  if m.has name then m else m ++ [(name, [])]

/-- Add a reference from one schema to another one. -/
def add (m : ReferenceMap) (source target : String) : ReferenceMap :=
  (m.register source).map fun (name, targets) =>
    if name = source then (name, insertName target targets) else (name, targets)

end ReferenceMap

/-- The state of a review. -/
structure Session where
  policy : Policy := {}
  findings : List Finding := []
  /-- The operation identifiers seen so far, in lower case. -/
  operationIds : List String := []
  references : ReferenceMap := []
  /-- The keys of the reference loops reported so far. -/
  reportedLoops : List String := []
deriving Repr, Inhabited

namespace Session

/-- A fresh session under a policy. -/
def start (p : Policy) : Session :=
  { policy := p }

def push (s : Session) (f : Finding) : Session :=
  { s with findings := s.findings ++ [f] }

def pushAll (s : Session) (fs : List Finding) : Session :=
  { s with findings := s.findings ++ fs }

@[simp]
theorem findings_pushAll (s : Session) (fs : List Finding) :
    (s.pushAll fs).findings = s.findings ++ fs :=
  rfl

/-- Claim an operation identifier; false when it was claimed before, ignoring
case. -/
def claimOperationId (s : Session) (id : String) : Bool × Session :=
  let key := Text.lower id
  if s.operationIds.contains key then
    (false, s)
  else
    (true, { s with operationIds := key :: s.operationIds })

/-- Claim the key of a reference loop; false when it was claimed before. -/
def claimLoop (s : Session) (key : String) : Bool × Session :=
  if s.reportedLoops.contains key then
    (false, s)
  else
    (true, { s with reportedLoops := key :: s.reportedLoops })

/-- Make sure that a schema has an entry among the references. -/
def register (s : Session) (name : String) : Session :=
  { s with references := s.references.register name }

/-- Add a reference from one schema to another one. -/
def addReference (s : Session) (source target : String) : Session :=
  { s with references := s.references.add source target }

end Session

/-- One check of a document: what it is called, and what it does to a session. -/
structure Check where
  name : String
  run : Document → Session → Session

end ApiReview
