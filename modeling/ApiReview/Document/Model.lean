import ApiReview.Document.Schema
import ApiReview.Document.Reference
import ApiReview.Text.Blank
import ApiReview.Text.Ascii

/-!
# The parts of a document

Only the parts of an OpenAPI description that are reviewed are modelled.  Tables
keep the order of declaration, and an absent field is told apart from an empty
one wherever the review does so.
-/

namespace ApiReview

/-- The `info` object. -/
structure Info where
  title : Option String := none
  version : Option String := none
  description : Option String := none
deriving Repr, BEq, Inhabited

structure Server where
  url : Option String := none
  description : Option String := none
deriving Repr, BEq, Inhabited

/-- A tag declared for the whole document. -/
structure Tag where
  name : String := ""
  description : Option String := none
deriving Repr, BEq, Inhabited

/-- The scopes that are required of each named security scheme. -/
abbrev SecurityRequirement := Table (List String)

inductive ParameterPlace where
  | path
  | query
  | header
  | cookie
deriving DecidableEq, Repr, Inhabited

/-- The word for a place, as it is written in a document. -/
def ParameterPlace.word : ParameterPlace → String
  | .path => "path"
  | .query => "query"
  | .header => "header"
  | .cookie => "cookie"

/-- What is sent under one media type. -/
structure MediaType where
  schema : Option Schema := none
deriving Repr, BEq, Inhabited

/-- A parameter of an operation. -/
structure Parameter where
  name : Option String := none
  place : ParameterPlace := .query
  required : Option Bool := none
  schema : Option Schema := none
  content : Table MediaType := []
deriving Repr, BEq, Inhabited

namespace Parameter

def isRequired (p : Parameter) : Bool :=
  p.required == some true

/-- The name, unless it is absent or blank. -/
def declaredName? (p : Parameter) : Option String :=
  p.name.filter fun n => !Text.isBlank n

end Parameter

/-- What is sent with a request. -/
structure RequestBody where
  description : Option String := none
  required : Option Bool := none
  content : Table MediaType := []
deriving Repr, BEq, Inhabited

structure Response where
  description : Option String := none
  content : Table MediaType := []
deriving Repr, BEq, Inhabited

/-- An operation of a path item. -/
structure Operation where
  operationId : Option String := none
  summary : Option String := none
  tags : List String := []
  parameters : List (RefOr Parameter) := []
  requestBody : Option (RefOr RequestBody) := none
  responses : Table (RefOr Response) := []
  security : Option (List SecurityRequirement) := none
deriving Repr, BEq, Inhabited

/-- The methods for which a path item can declare an operation. -/
inductive Method where
  | get
  | put
  | post
  | delete
  | options
  | head
  | patch
  | trace
deriving DecidableEq, Repr

namespace Method

/-- The methods in the order in which operations are listed. -/
def all : List Method :=
  [.get, .put, .post, .delete, .options, .head, .patch, .trace]

/-- The name of a method as it is written in a document. -/
def name : Method → String
  | .get => "get"
  | .put => "put"
  | .post => "post"
  | .delete => "delete"
  | .options => "options"
  | .head => "head"
  | .patch => "patch"
  | .trace => "trace"

/-- The name of a method as it is written in a label. -/
def label : Method → String
  | .get => "GET"
  | .put => "PUT"
  | .post => "POST"
  | .delete => "DELETE"
  | .options => "OPTIONS"
  | .head => "HEAD"
  | .patch => "PATCH"
  | .trace => "TRACE"

theorem mem_all (m : Method) : m ∈ all := by
  cases m <;> decide

end Method

/-- The operations under one path, and the parameters that they share. -/
structure PathItem where
  parameters : List (RefOr Parameter) := []
  get : Option Operation := none
  put : Option Operation := none
  post : Option Operation := none
  delete : Option Operation := none
  options : Option Operation := none
  head : Option Operation := none
  patch : Option Operation := none
  trace : Option Operation := none
deriving Repr, BEq, Inhabited

namespace PathItem

def operation? (item : PathItem) : Method → Option Operation
  | .get => item.get
  | .put => item.put
  | .post => item.post
  | .delete => item.delete
  | .options => item.options
  | .head => item.head
  | .patch => item.patch
  | .trace => item.trace

def setOperation (item : PathItem) (m : Method) (o : Option Operation) : PathItem :=
  match m with
  | .get => { item with get := o }
  | .put => { item with put := o }
  | .post => { item with post := o }
  | .delete => { item with delete := o }
  | .options => { item with options := o }
  | .head => { item with head := o }
  | .patch => { item with patch := o }
  | .trace => { item with trace := o }

/-- The declared operations in the order of the methods. -/
def operations (item : PathItem) : List (Method × Operation) :=
  Method.all.filterMap fun m => (item.operation? m).map (m, ·)

end PathItem

structure SecurityScheme where
  type : Option String := none
  scheme : Option String := none
  flows : Option Json.Value := none
deriving Repr, BEq, Inhabited

def SecurityScheme.isOAuth2 (s : SecurityScheme) : Bool :=
  s.type.any (Text.eqIgnoringAsciiCase "oauth2")

/-- The reusable parts of a document. -/
structure Components where
  schemas : Table Schema := []
  parameters : Table (RefOr Parameter) := []
  requestBodies : Table (RefOr RequestBody) := []
  responses : Table (RefOr Response) := []
  securitySchemes : Table (RefOr SecurityScheme) := []
deriving Repr, BEq, Inhabited

structure Document where
  openapi : Option String := none
  info : Option Info := none
  servers : List Server := []
  paths : Table PathItem := []
  components : Option Components := none
  tags : List Tag := []
  security : List SecurityRequirement := []
deriving Repr, BEq, Inhabited

namespace Document

/-- The components; a document without any has none of each sort. -/
def allComponents (d : Document) : Components :=
  d.components.getD {}

def schemas (d : Document) : Table Schema :=
  d.allComponents.schemas

def schema? (d : Document) (name : String) : Option Schema :=
  d.schemas.get? name

/-- The parameter itself, found through the components. -/
def resolveParameter (d : Document) (p : RefOr Parameter) : Option Parameter :=
  p.resolve d.allComponents.parameters

/-- The request body itself, found through the components. -/
def resolveRequestBody (d : Document) (b : RefOr RequestBody) : Option RequestBody :=
  b.resolve d.allComponents.requestBodies

/-- The response itself, found through the components. -/
def resolveResponse (d : Document) (r : RefOr Response) : Option Response :=
  r.resolve d.allComponents.responses

/-- The security scheme itself, found through the components. -/
def resolveSecurityScheme (d : Document) (s : RefOr SecurityScheme) :
    Option SecurityScheme :=
  s.resolve d.allComponents.securitySchemes

end Document

/-- An operation together with where it is declared. -/
structure OperationSite where
  path : String
  item : PathItem
  method : Method
  operation : Operation

namespace OperationSite

def pointer (site : OperationSite) : String :=
  Pointer.path site.path ++ "/" ++ site.method.name

/-- How messages name the operation. -/
def label (site : OperationSite) : String :=
  site.method.label ++ " " ++ site.path

end OperationSite

/-- Every operation: path by path in declaration order, then by method. -/
def Document.operations (d : Document) : List OperationSite :=
  d.paths.flatMap fun (path, item) =>
    item.operations.map fun (method, operation) => ⟨path, item, method, operation⟩

end ApiReview
