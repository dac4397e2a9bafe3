import ApiReview.Finding.Severity

/-!
# The rules of a review

Every finding names the rule that produced it.  A rule has a stable code, by
which policies drop it, a default severity, a category and a one-line summary.
-/

namespace ApiReview

/-- The rules, in the order in which they are listed. -/
inductive Rule where
  | parseError
  | fileNotFound
  | fileReadError
  | unexpectedAnalysisError
  | missingTitle
  | missingVersion
  | missingServers
  | emptyServerUrl
  | noPaths
  | invalidPathFormat
  | missingPathParameter
  | unusedPathParameter
  | emptyPathItem
  | missingOperationId
  | invalidOperationId
  | duplicateOperationId
  | missingResponses
  | noSuccessResponse
  | multipleSuccessResponses
  | missingParameterName
  | duplicateParameter
  | pathParameterNotRequired
  | missingParameterSchema
  | complexInlineParameterSchema
  | nullableRequiredParameter
  | emptyRequestBodyContent
  | inlineComplexSchema
  | binaryInJsonContent
  | missingResponseDescription
  | emptyPropertySchema
  | emptyArrayItems
  | missingDiscriminatorProperty
  | discriminatorPropertyNotRequired
  | missingDiscriminatorMapping
  | invalidDiscriminatorMapping
  | missingDiscriminator
  | invalidAllOfFragment
  | selfReferencingSchema
  | invalidRange
  | invalidPattern
  | weakTyping
  | emptyEnumValue
  | unresolvedReference
  | circularDependency
  | emptyEnum
  | singleValueEnum
  | booleanEnum
  | nestedArrayEnum
  | mixedTypeEnum
  | missingOAuth2Flows
  | undefinedSecurityScheme
  | missingTags
  | undeclaredTag
  | invalidSchemaName
  | reservedKeywordName
  | normalizedNameCollision
deriving DecidableEq, Repr, Inhabited

namespace Rule

/-- What the list of rules says about one of them. -/
structure Entry where
  code : String
  severity : Severity
  category : Category
  summary : String
deriving Repr

/-- All rules in the order in which they are listed. -/
def all : List Rule :=
  [.parseError, .fileNotFound, .fileReadError, .unexpectedAnalysisError, .missingTitle,
    .missingVersion, .missingServers, .emptyServerUrl, .noPaths, .invalidPathFormat,
    .missingPathParameter, .unusedPathParameter, .emptyPathItem, .missingOperationId,
    .invalidOperationId, .duplicateOperationId, .missingResponses, .noSuccessResponse,
    .multipleSuccessResponses, .missingParameterName, .duplicateParameter,
    .pathParameterNotRequired, .missingParameterSchema, .complexInlineParameterSchema,
    .nullableRequiredParameter, .emptyRequestBodyContent, .inlineComplexSchema,
    .binaryInJsonContent, .missingResponseDescription, .emptyPropertySchema,
    .emptyArrayItems, .missingDiscriminatorProperty, .discriminatorPropertyNotRequired,
    .missingDiscriminatorMapping, .invalidDiscriminatorMapping, .missingDiscriminator,
    .invalidAllOfFragment, .selfReferencingSchema, .invalidRange, .invalidPattern,
    .weakTyping, .emptyEnumValue, .unresolvedReference, .circularDependency, .emptyEnum,
    .singleValueEnum, .booleanEnum, .nestedArrayEnum, .mixedTypeEnum, .missingOAuth2Flows,
    .undefinedSecurityScheme, .missingTags, .undeclaredTag, .invalidSchemaName,
    .reservedKeywordName, .normalizedNameCollision]

def entry : Rule → Entry
  | .parseError =>
    ⟨"PARSE_ERROR", .error, .structure_,
      "Document text could not be parsed"⟩
  | .fileNotFound =>
    ⟨"FILE_NOT_FOUND", .error, .structure_,
      "Input path does not exist"⟩
  | .fileReadError =>
    ⟨"FILE_READ_ERROR", .error, .structure_,
      "Input path exists but could not be read"⟩
  | .unexpectedAnalysisError =>
    ⟨"UNEXPECTED_ANALYSIS_ERROR", .error, .other,
      "An analysis pass failed unexpectedly"⟩
  | .missingTitle =>
    ⟨"MISSING_TITLE", .error, .structure_,
      "info.title is missing or empty"⟩
  | .missingVersion =>
    ⟨"MISSING_VERSION", .error, .structure_,
      "info.version is missing or empty"⟩
  | .missingServers =>
    ⟨"MISSING_SERVERS", .warning, .structure_,
      "No servers are declared"⟩
  | .emptyServerUrl =>
    ⟨"EMPTY_SERVER_URL", .warning, .structure_,
      "A server entry has no url"⟩
  | .noPaths =>
    ⟨"NO_PATHS", .error, .structure_,
      "The document declares no paths"⟩
  | .invalidPathFormat =>
    ⟨"INVALID_PATH_FORMAT", .error, .path,
      "Path template does not start with '/'"⟩
  | .missingPathParameter =>
    ⟨"MISSING_PATH_PARAMETER", .error, .path,
      "Path placeholder has no matching 'in: path' parameter"⟩
  | .unusedPathParameter =>
    ⟨"UNUSED_PATH_PARAMETER", .error, .path,
      "'in: path' parameter has no matching placeholder"⟩
  | .emptyPathItem =>
    ⟨"EMPTY_PATH_ITEM", .warning, .path,
      "Path item declares no operations"⟩
  | .missingOperationId =>
    ⟨"MISSING_OPERATION_ID", .error, .operation,
      "Operation has no operationId"⟩
  | .invalidOperationId =>
    ⟨"INVALID_OPERATION_ID", .warning, .operation,
      "operationId is not a valid identifier"⟩
  | .duplicateOperationId =>
    ⟨"DUPLICATE_OPERATION_ID", .error, .operation,
      "operationId is already used (case-insensitive)"⟩
  | .missingResponses =>
    ⟨"MISSING_RESPONSES", .error, .operation,
      "Operation declares no responses"⟩
  | .noSuccessResponse =>
    ⟨"NO_SUCCESS_RESPONSE", .warning, .operation,
      "Operation declares no 2xx response"⟩
  | .multipleSuccessResponses =>
    ⟨"MULTIPLE_SUCCESS_RESPONSES", .warning, .clientGeneration,
      "Several 2xx responses make the generated return type ambiguous"⟩
  | .missingParameterName =>
    ⟨"MISSING_PARAMETER_NAME", .error, .parameter,
      "Parameter has no name"⟩
  | .duplicateParameter =>
    ⟨"DUPLICATE_PARAMETER", .error, .parameter,
      "Parameter (name, in) pair declared twice"⟩
  | .pathParameterNotRequired =>
    ⟨"PATH_PARAMETER_NOT_REQUIRED", .error, .parameter,
      "Path parameter is not marked required"⟩
  | .missingParameterSchema =>
    ⟨"MISSING_PARAMETER_SCHEMA", .warning, .parameter,
      "Parameter has neither schema nor content"⟩
  | .complexInlineParameterSchema =>
    ⟨"COMPLEX_INLINE_PARAMETER_SCHEMA", .warning, .clientGeneration,
      "Parameter uses an inline object schema"⟩
  | .nullableRequiredParameter =>
    ⟨"NULLABLE_REQUIRED_PARAMETER", .info, .parameter,
      "Required parameter is also nullable"⟩
  | .emptyRequestBodyContent =>
    ⟨"EMPTY_REQUEST_BODY_CONTENT", .warning, .response,
      "Request body declares no content"⟩
  | .inlineComplexSchema =>
    ⟨"INLINE_COMPLEX_SCHEMA", .warning, .clientGeneration,
      "Content uses an inline object schema"⟩
  | .binaryInJsonContent =>
    ⟨"BINARY_IN_JSON_CONTENT", .warning, .response,
      "Binary string format declared under a JSON media type"⟩
  | .missingResponseDescription =>
    ⟨"MISSING_RESPONSE_DESCRIPTION", .info, .response,
      "Response has no description"⟩
  | .emptyPropertySchema =>
    ⟨"EMPTY_PROPERTY_SCHEMA", .warning, .schema,
      "Property schema is empty"⟩
  | .emptyArrayItems =>
    ⟨"EMPTY_ARRAY_ITEMS", .warning, .schema,
      "Array schema has missing or empty items"⟩
  | .missingDiscriminatorProperty =>
    ⟨"MISSING_DISCRIMINATOR_PROPERTY", .error, .schema,
      "Discriminator has no propertyName"⟩
  | .discriminatorPropertyNotRequired =>
    ⟨"DISCRIMINATOR_PROPERTY_NOT_REQUIRED", .error, .clientGeneration,
      "Discriminator property is not listed as required"⟩
  | .missingDiscriminatorMapping =>
    ⟨"MISSING_DISCRIMINATOR_MAPPING", .warning, .schema,
      "Discriminator has no mapping"⟩
  | .invalidDiscriminatorMapping =>
    ⟨"INVALID_DISCRIMINATOR_MAPPING", .error, .schema,
      "Discriminator mapping targets an unknown schema"⟩
  | .missingDiscriminator =>
    ⟨"MISSING_DISCRIMINATOR", .warning, .clientGeneration,
      "oneOf polymorphism without a discriminator"⟩
  | .invalidAllOfFragment =>
    ⟨"INVALID_ALLOF_FRAGMENT", .warning, .schema,
      "allOf member is empty or not an object"⟩
  | .selfReferencingSchema =>
    ⟨"SELF_REFERENCING_SCHEMA", .info, .schema,
      "Schema references itself"⟩
  | .invalidRange =>
    ⟨"INVALID_RANGE", .error, .schema,
      "Lower bound is greater than upper bound"⟩
  | .invalidPattern =>
    ⟨"INVALID_PATTERN", .error, .schema,
      "pattern is not a valid regular expression"⟩
  | .weakTyping =>
    ⟨"WEAK_TYPING", .warning, .schema,
      "Untyped object with free-form additionalProperties"⟩
  | .emptyEnumValue =>
    ⟨"EMPTY_ENUM_VALUE", .warning, .schema,
      "Enum contains an empty string"⟩
  | .unresolvedReference =>
    ⟨"UNRESOLVED_REFERENCE", .error, .schema,
      "$ref points at an undeclared component"⟩
  | .circularDependency =>
    ⟨"CIRCULAR_DEPENDENCY", .warning, .schema,
      "Schemas form a reference cycle"⟩
  | .emptyEnum =>
    ⟨"EMPTY_ENUM", .warning, .schema,
      "Enum declares no values"⟩
  | .singleValueEnum =>
    ⟨"SINGLE_VALUE_ENUM", .info, .schema,
      "Enum declares a single value"⟩
  | .booleanEnum =>
    ⟨"BOOLEAN_ENUM", .info, .schema,
      "Enum of booleans, use a boolean type"⟩
  | .nestedArrayEnum =>
    ⟨"NESTED_ARRAY_ENUM", .warning, .clientGeneration,
      "Enum contains array values"⟩
  | .mixedTypeEnum =>
    ⟨"MIXED_TYPE_ENUM", .warning, .clientGeneration,
      "Enum mixes value types"⟩
  | .missingOAuth2Flows =>
    ⟨"MISSING_OAUTH2_FLOWS", .error, .security,
      "OAuth2 scheme declares no flows"⟩
  | .undefinedSecurityScheme =>
    ⟨"UNDEFINED_SECURITY_SCHEME", .error, .security,
      "Security requirement names an undeclared scheme"⟩
  | .missingTags =>
    ⟨"MISSING_TAGS", .warning, .operation,
      "Operation has no tags"⟩
  | .undeclaredTag =>
    ⟨"UNDECLARED_TAG", .warning, .operation,
      "Operation tag is not declared globally"⟩
  | .invalidSchemaName =>
    ⟨"INVALID_SCHEMA_NAME", .warning, .naming,
      "Schema name is not a valid identifier"⟩
  | .reservedKeywordName =>
    ⟨"RESERVED_KEYWORD_NAME", .warning, .naming,
      "Schema name is a reserved keyword"⟩
  | .normalizedNameCollision =>
    ⟨"NORMALIZED_NAME_COLLISION", .error, .naming,
      "Schema names collide once normalized"⟩

def code (r : Rule) : String :=
  r.entry.code

def severity (r : Rule) : Severity :=
  r.entry.severity

def category (r : Rule) : Category :=
  r.entry.category

def summary (r : Rule) : String :=
  r.entry.summary

def ofCode? (code : String) : Option Rule :=
  all.find? (·.code == code)

theorem mem_all (r : Rule) : r ∈ all := by
  cases r <;> decide

theorem code_of_ofCode? {code : String} {r : Rule} (h : ofCode? code = some r) :
    r.code = code := by
  simpa using List.find?_some h

end Rule

end ApiReview
