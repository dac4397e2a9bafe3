import ApiReview.Number.Power
import ApiReview.Settings.KeyPath

/-!
# Settings in the environment

A variable whose name begins with `OPENAPI_LINT__` sets what the rest of its name
says, with two underscores between the names of a path; the case of the letters
does not count.  Its text is taken for a truth value, an integer or another
number if it looks like one, and else for a text; four settings are lists, whose
text is cut at its commas.
-/

namespace ApiReview

abbrev Environment := List (String × String)

namespace Environment

/-- What the names of variables that set something begin with. -/
def mark : String :=
  "openapi_lint__"

/-- The settings whose text is cut at commas. -/
def listKeys : List String :=
  ["rules.disabled", "rules.extra_reserved_words", "discovery.extensions",
    "discovery.ignore_paths"]

/-- The text with a dot in place of each pair of underscores. -/
def dotted : List Char → List Char
  | '_' :: '_' :: rest => '.' :: dotted rest
  | c :: rest => c :: dotted rest
  | [] => []

/-- The path that the name of a variable gives. -/
def key? (name : String) : Option String :=
  (Text.dropOpening? mark (Text.lower name)).map fun rest =>
    String.ofList (dotted rest.toList)

/-- The value that a text looks like, if it is not a mere text. -/
def scalar? (text : String) : Option Scalar :=
  let word := Text.lower text
  if word == "true" then some (.flag true)
  else if word == "false" then some (.flag false)
  else
    match (intOfText? text).filter (fitsSigned 64) with
    | some n => some (.integer n)
    | none => (Binary64.ofText? text).map .real

/-- The setting that a variable gives to a path. -/
def setting (key text : String) : Setting :=
  let here := some Origin.environment
  match scalar? text with
  | some s => .scalar here s
  | none =>
    if listKeys.contains key then
      .list here ((Text.cutAt ',' text).map fun piece => .scalar here (.text piece))
    else
      .scalar here (.text text)

def layer (environment : Environment) : Table Setting :=
  environment.filterMap fun (name, text) =>
    (key? name).map fun key => (key, setting key text)

end Environment

end ApiReview
