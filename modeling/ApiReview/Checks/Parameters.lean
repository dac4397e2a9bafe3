import ApiReview.Review.Session

/-!
# Parameters

The parameters of a path item are checked once, those of an operation with the
operation.  An operation may declare a parameter of its path item again, so
repetitions are only looked for inside of one list.
-/

namespace ApiReview.Checks

/-- What makes two parameters of a list the same one: name and place, where the
names of headers are compared ignoring the case of ASCII letters. -/
def parameterKey (place : ParameterPlace) (name : String) : String × ParameterPlace :=
  match place with
  | .header => (Text.asciiLower name, place)
  | _ => (name, place)

/-- The schemas under the media types of some content. -/
def contentSchemas (content : Table MediaType) : List Schema :=
  content.filterMap fun (_, media) => media.schema

/-- Does a schema allow null? -/
def isNullable (s : Schema) : Bool :=
  s.nullable == some true || s.isType "null"

/-- The findings about a parameter that has a name; `repeated` tells whether the
list already holds the same parameter. -/
def namedParameterFindings (policy : Policy) (p : Parameter) (name location : String)
    (repeated : Bool) : List Finding :=
  (if repeated then
    [.of .duplicateParameter
      ("Parameter '" ++ name ++ "' (in: " ++ p.place.word ++ ") is declared more than once")
      location] else []) ++
  (if p.place == .path && !p.isRequired then
    [.of .pathParameterNotRequired
      ("Path parameter '" ++ name ++ "' must be marked required: true") location]
    else []) ++
  (if p.schema.isNone && (contentSchemas p.content).isEmpty then
    [.of .missingParameterSchema ("Parameter '" ++ name ++ "' declares no schema") location]
    else []) ++
  (if (p.schema.toList ++ contentSchemas p.content).any Schema.isComplexInline then
    [.of .complexInlineParameterSchema
      ("Parameter '" ++ name ++
        "' uses an inline object schema; extract it to components/schemas")
      (location ++ "/schema")] else []) ++
  (if policy.checkNullableRequiredParameters && p.isRequired && p.schema.any isNullable then
    [.of .nullableRequiredParameter
      ("Parameter '" ++ name ++ "' is required but its schema is nullable") location]
    else [])

/-- The findings about the entries of a list from `index` on; `seen` holds the
keys of the named parameters before it. -/
def parameterFindings (d : Document) (policy : Policy) (owner : String) :
    List (RefOr Parameter) → Nat → List (String × ParameterPlace) → List Finding
  | [], _, _ => []
  | entry :: rest, index, seen =>
    let location := owner ++ "/parameters/" ++ toString index
    match d.resolveParameter entry with
    | none =>
      .of .unresolvedReference
        ("Parameter reference '" ++ (entry.reference?).getD "" ++ "' does not resolve")
        location :: parameterFindings d policy owner rest (index + 1) seen
    | some p =>
      match p.declaredName? with
      | none =>
        .of .missingParameterName ("Parameter " ++ toString index ++ " has no name")
          location :: parameterFindings d policy owner rest (index + 1) seen
      | some name =>
        let key := parameterKey p.place name
        namedParameterFindings policy p name location (seen.contains key) ++
          parameterFindings d policy owner rest (index + 1) (key :: seen)

def parameters : Check where
  name := "parameters"
  run d s :=
    s.pushAll <|
      (d.paths.flatMap fun (path, item) =>
        parameterFindings d s.policy (Pointer.path path) item.parameters 0 []) ++
      (d.operations.flatMap fun site =>
        parameterFindings d s.policy site.pointer site.operation.parameters 0 [])

end ApiReview.Checks
