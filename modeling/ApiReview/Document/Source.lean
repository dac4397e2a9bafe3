import ApiReview.Document.Loading
import ApiReview.Json.FromText
import ApiReview.Text.Blank
import ApiReview.Yaml.FromText

/-!
# Documents as texts

A text whose first character that is not blank is an opening brace is read as
JSON, any other text as YAML.
-/

namespace ApiReview

/-- Why a text is no document. -/
inductive LoadFailure where
  | json (failure : Json.Failure)
  | yaml (failure : Yaml.Failure)

namespace LoadFailure

/-- What a failure says, without its place in front. -/
def detail : LoadFailure → String
  | .json f => f.message
  | .yaml f => f.message

/-- The place of a failure. -/
def location : LoadFailure → String
  | .json f => f.location
  | .yaml f => f.location

def formatName : LoadFailure → String
  | .json _ => "JSON"
  | .yaml _ => "YAML"

/-- What a failure says, behind the format and the place. -/
def message (f : LoadFailure) : String :=
  "Invalid " ++ f.formatName ++ " at " ++ f.location ++ ": " ++ f.detail

end LoadFailure

/-- More levels than any text can nest schemas. -/
def textDepth : Nat :=
  130

/-- Is the text meant to be JSON? -/
def isJsonText (text : String) : Bool :=
  "\x7b".toList.isPrefixOf (Text.trimStart text).toList

def Document.parse (text : String) : Except LoadFailure Document :=
  if isJsonText text then
    (Json.readText (readDocument textDepth) text).mapError .json
  else
    (Yaml.readText (readDocument textDepth) text).mapError .yaml

end ApiReview
