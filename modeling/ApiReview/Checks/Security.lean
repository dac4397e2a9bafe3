import ApiReview.Review.Session

/-!
# Security schemes and requirements

An OAuth 2 scheme needs flows, and every scheme that a requirement names has to
be declared among the components.
-/

namespace ApiReview.Checks

/-- Does a scheme have an object of flows that is not empty? -/
def hasFlows (s : SecurityScheme) : Bool :=
  match s.flows with
  | some (.object members) => !members.isEmpty
  | _ => false

def schemeFindings (d : Document) (name : String) (scheme : RefOr SecurityScheme) :
    List Finding :=
  let pointer := Pointer.component "securitySchemes" name
  match d.resolveSecurityScheme scheme with
  | none =>
    [.of .unresolvedReference ("Security scheme '" ++ name ++ "' does not resolve") pointer]
  | some s =>
    if s.isOAuth2 && !hasFlows s then
      [(Finding.of .missingOAuth2Flows
        ("OAuth2 security scheme '" ++ name ++ "' declares no flows")
        (pointer ++ "/flows")).about name pointer "securityScheme"]
    else
      []

def requirementFindings (d : Document) (owner : String)
    (requirements : List SecurityRequirement) : List Finding :=
  requirements.zipIdx.flatMap fun (requirement, index) =>
    (requirement.names.filter fun scheme =>
      !d.allComponents.securitySchemes.has scheme).map fun scheme =>
        .of .undefinedSecurityScheme
          ("Security requirement names undeclared scheme '" ++ scheme ++ "'")
          (owner ++ "/security/" ++ toString index)

def security : Check where
  name := "security"
  run d s :=
    s.pushAll <|
      (d.allComponents.securitySchemes.flatMap fun (name, scheme) =>
        schemeFindings d name scheme) ++
      requirementFindings d "#" d.security ++
      d.operations.flatMap fun site =>
        requirementFindings d site.pointer (site.operation.security.getD [])

end ApiReview.Checks
