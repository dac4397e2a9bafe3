import ApiReview.Review.Session
import ApiReview.Checks.Names

/-!
# Request bodies and responses

Bodies and responses are checked where they are defined: in place on an
operation, or once among the components.  A reference to one only has to
resolve.
-/

namespace ApiReview.Checks

/-- The finding about a reference that leads nowhere. -/
def unresolved (reference pointer : String) : Finding :=
  .of .unresolvedReference ("Reference '" ++ reference ++ "' does not resolve") pointer

/-- The findings about the schema under one media type. -/
def mediaFindings (owner mediaType : String) (media : MediaType) : List Finding :=
  match media.schema with
  | none => []
  | some s =>
    let pointer := Pointer.child (owner ++ "/content") mediaType ++ "/schema"
    (if s.shape.isComplexInline then
      [.of .inlineComplexSchema
        ("Inline object schema under '" ++ mediaType ++
          "'; extract it to components/schemas for a named model") pointer] else []) ++
    (if isJsonMediaType mediaType && s.shape.isBinaryString then
      [.of .binaryInJsonContent
        ("Binary string schema declared under JSON media type '" ++ mediaType ++ "'")
        pointer] else [])

/-- The findings about the content of a body or a response. -/
def contentFindings (owner : String) (content : Table MediaType) : List Finding :=
  content.flatMap fun (mediaType, media) => mediaFindings owner mediaType media

/-- The findings about a request body given in place. -/
def requestBodyFindings (pointer : String) (b : RequestBody) : List Finding :=
  (if b.content.isEmpty then
    [.of .emptyRequestBodyContent "Request body declares no content" pointer] else []) ++
  contentFindings pointer b.content

/-- The findings about a response given in place. -/
def responseFindings (pointer : String) (r : Response) : List Finding :=
  (if Text.isMissing r.description then
    [.of .missingResponseDescription "Response has no description"
      (pointer ++ "/description")] else []) ++
  contentFindings pointer r.content

/-- The findings about a part used by an operation: a reference has to resolve,
anything else is checked in place. -/
def usedPartFindings {α : Type} (resolve : RefOr α → Option α)
    (check : String → α → List Finding) (pointer : String) (part : RefOr α) :
    List Finding :=
  match part with
  | .item value => check pointer value
  | .ref reference => if (resolve part).isNone then [unresolved reference pointer] else []

/-- The findings about a component: one that is a reference itself is not
checked here. -/
def componentFindings {α : Type} (check : String → α → List Finding) (sort : String)
    (table : Table (RefOr α)) : List Finding :=
  table.flatMap fun (name, part) =>
    match part with
    | .item value => check (Pointer.component sort name) value
    | .ref _ => []

/-- The findings about the body and the responses of an operation. -/
def operationBodyFindings (d : Document) (site : OperationSite) : List Finding :=
  (site.operation.requestBody.toList.flatMap
    (usedPartFindings d.resolveRequestBody requestBodyFindings
      (site.pointer ++ "/requestBody"))) ++
  site.operation.responses.flatMap fun (status, response) =>
    usedPartFindings d.resolveResponse responseFindings
      (Pointer.child (site.pointer ++ "/responses") status) response

def responses : Check where
  name := "responses"
  run d s :=
    s.pushAll <|
      d.operations.flatMap (operationBodyFindings d) ++
      componentFindings requestBodyFindings "requestBodies" d.allComponents.requestBodies ++
      componentFindings responseFindings "responses" d.allComponents.responses

end ApiReview.Checks
