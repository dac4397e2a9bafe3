import ApiReview.Document.Schema
import ApiReview.Finding.Finding

/-!
# Lists of enum values

What is reported about the `enum` keyword depends only on how many values there
are and on which kinds of values occur.
-/

namespace ApiReview.Checks

/-- The kinds that occur among some values, in the order of kinds. -/
def occurringKinds (values : List Json.Value) : List Json.Kind :=
  Json.Kind.all.filter fun kind => values.any (·.kind == kind)

def enumValueFindings (values : List Json.Value) (location : String) : List Finding :=
  if values.isEmpty then
    [.of .emptyEnum "Enum declares no values" location]
  else
    let kinds := occurringKinds values
    let typed := kinds.filter (· != .null)
    (if values.length == 1 then
      [.of .singleValueEnum
        "Enum has a single value; consider a constant or a plain type" location] else []) ++
    (if values.length > 1 && kinds == [.bool] then
      [.of .booleanEnum "Enum only lists boolean values; use type: boolean instead"
        location] else []) ++
    (if kinds.contains .array then
      [.of .nestedArrayEnum "Enum contains array values" location] else []) ++
    (if typed.length > 1 then
      [.of .mixedTypeEnum
        ("Enum mixes value types (" ++ ", ".intercalate (typed.map Json.Kind.word) ++ ")")
        location] else [])

/-- The findings about the `enum` keyword of a schema. -/
def enumFindings (s : Schema) (location : String) : List Finding :=
  match s.enumValues with
  | none => []
  | some values => enumValueFindings values location

end ApiReview.Checks
