import ApiReview.Checks.Bodies
import ApiReview.Checks.Loops
import ApiReview.Checks.Naming
import ApiReview.Checks.Parameters
import ApiReview.Checks.Paths
import ApiReview.Checks.Schemas
import ApiReview.Checks.Security
import ApiReview.Checks.Structure
import ApiReview.Checks.Tags
import ApiReview.Document.Source

/-!
# Reviewing a document

A review runs all checks on a fresh session in a fixed order and keeps the
findings that the policy asks for.  The check of reference loops comes last, as
it needs the references that the check of schemas enters.
-/

namespace ApiReview

/-- The checks in the order in which they are run. -/
def Check.all : List Check :=
  [Checks.structure_, Checks.paths, Checks.parameters, Checks.responses, Checks.schemas,
    Checks.naming, Checks.security, Checks.tags, Checks.loops]

def Check.named? (name : String) : Option Check :=
  Check.all.find? (·.name == name)

def Session.runAll (s : Session) (checks : List Check) (d : Document) : Session :=
  checks.foldl (fun s check => check.run d s) s

/-- All findings about a document, kept or not. -/
def Document.findings (d : Document) (p : Policy) : List Finding :=
  ((Session.start p).runAll Check.all d).findings

/-- The findings about a document that the policy keeps. -/
def Document.review (d : Document) (p : Policy) : List Finding :=
  (d.findings p).filter p.keeps

/-- The findings about a text.  That a text is no document is always reported,
whatever the policy says. -/
def Policy.reviewText (p : Policy) (text : String) : List Finding :=
  match Document.parse text with
  | .ok d => d.review p
  | .error f => [.of .parseError f.detail f.location]

end ApiReview
