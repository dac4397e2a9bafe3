import ApiReview.Review.Session
import ApiReview.Checks.Names

/-!
# Paths and operations

Each placeholder of a path template needs a path parameter of its name, and each
path parameter a placeholder, for every operation by itself.  Operations need an
identifier that is valid and unique ignoring case, and exactly one response of
success.
-/

namespace ApiReview.Checks

def pathFindings (path : String) (item : PathItem) : List Finding :=
  (if "/".toList.isPrefixOf path.toList then [] else
    [.of .invalidPathFormat ("Path '" ++ path ++ "' must start with '/'")
      (Pointer.path path)]) ++
  (if item.operations.isEmpty then
    [.of .emptyPathItem ("Path '" ++ path ++ "' declares no operations")
      (Pointer.path path)] else [])

/-- The name of a path parameter; none for any other parameter, and for one that
has no name or is not found. -/
def pathParameterName? (d : Document) (p : RefOr Parameter) : Option String :=
  (d.resolveParameter p).bind fun parameter =>
    if parameter.place == .path then parameter.declaredName? else none

/-- The names of the path parameters of an operation, the ones of its path item
included, in their order and without repetition. -/
def declaredPathParameters (d : Document) (site : OperationSite) : List String :=
  ((site.item.parameters ++ site.operation.parameters).filterMap
    (pathParameterName? d)).foldl
    (fun names name => if names.contains name then names else names ++ [name]) []

/-- The list without the elements that equal the one before them. -/
def dropRepeats : List String → List String
  | a :: b :: rest => if a = b then dropRepeats (b :: rest) else a :: dropRepeats (b :: rest)
  | short => short

/-- The findings about the placeholders and path parameters of an operation. -/
def pathParameterFindings (d : Document) (site : OperationSite) : List Finding :=
  let declared := declaredPathParameters d site
  let wanted := dropRepeats (placeholders site.path)
  let location := site.pointer ++ "/parameters"
  (wanted.filter fun name => !declared.contains name).map (fun name =>
    Finding.of .missingPathParameter
      (site.label ++ ": placeholder '\x7b" ++ name ++
        "\x7d' has no matching 'in: path' parameter") location) ++
  (declared.filter fun name => !wanted.contains name).map (fun name =>
    Finding.of .unusedPathParameter
      (site.label ++ ": path parameter '" ++ name ++
        "' does not appear in the path template") location)

/-- The identifier of an operation, unless it is absent or blank. -/
def declaredOperationId? (o : Operation) : Option String :=
  o.operationId.filter fun id => !Text.isBlank id

/-- Check the identifier of an operation.  `owners` holds the label of the
operation that claimed each identifier, by its lower case form. -/
def checkOperationId (site : OperationSite) (owners : Table String) (s : Session) :
    Table String × Session :=
  let location := site.pointer ++ "/operationId"
  match declaredOperationId? site.operation with
  | none =>
    (owners, s.push (.of .missingOperationId (site.label ++ " has no operationId") location))
  | some id =>
    let s :=
      if isIdentifier id then s else
        s.push (.of .invalidOperationId
          ("operationId '" ++ id ++ "' is not a valid identifier " ++
            "(letters, digits, underscore; no leading digit)") location)
    let key := Text.lower id
    match s.claimOperationId id with
    | (true, s) => (owners.put key site.label, s)
    | (false, s) =>
      let first := (owners.get? key).getD ""
      (owners, s.push (.of .duplicateOperationId
        ("operationId '" ++ id ++ "' on " ++ site.label ++ " is already used by " ++ first)
        location))

/-- The findings about the responses of an operation. -/
def successFindings (site : OperationSite) : List Finding :=
  let location := site.pointer ++ "/responses"
  let responses := site.operation.responses
  if responses.isEmpty then
    [.of .missingResponses (site.label ++ " declares no responses") location]
  else
    match responses.names.filter isSuccessStatus with
    | [] => [.of .noSuccessResponse (site.label ++ " declares no 2xx response") location]
    | [_] => []
    | several =>
      [.of .multipleSuccessResponses
        (site.label ++ " declares several 2xx responses (" ++ ", ".intercalate several ++
          "); the generated return type is ambiguous") location]

def checkOperations (d : Document) :
    List OperationSite → Table String → Session → Session
  | [], _, s => s
  | site :: rest, owners, s =>
    let s := s.pushAll (pathParameterFindings d site)
    let (owners, s) := checkOperationId site owners s
    checkOperations d rest owners (s.pushAll (successFindings site))

def paths : Check where
  name := "paths"
  run d s :=
    checkOperations d d.operations []
      (s.pushAll (d.paths.flatMap fun (path, item) => pathFindings path item))

end ApiReview.Checks
