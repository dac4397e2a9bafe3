import ApiReview.Document.Model

/-!
# Schemas given in place

The schemas of operations, and those of the reusable parameters, request bodies
and responses, are listed with pointers to them.  A part given by reference is
passed over, as its component is listed by itself.
-/

namespace ApiReview

/-- A schema together with the pointer to it. -/
abbrev LocatedSchema := String × Schema

def inlineContent (owner : String) (content : Table MediaType) : List LocatedSchema :=
  content.filterMap fun (mediaType, media) =>
    media.schema.map (Pointer.child (owner ++ "/content") mediaType ++ "/schema", ·)

def inlineParameter (owner : String) (p : Parameter) : List LocatedSchema :=
  (p.schema.toList.map (owner ++ "/schema", ·)) ++ inlineContent owner p.content

/-- The schemas of a part, unless it is given by reference. -/
def inlinePart {α : Type} (list : String → α → List LocatedSchema) (owner : String)
    (part : RefOr α) : List LocatedSchema :=
  match part with
  | .item value => list owner value
  | .ref _ => []

def inlineParameters (owner : String) (ps : List (RefOr Parameter)) : List LocatedSchema :=
  ps.zipIdx.flatMap fun (p, index) =>
    inlinePart inlineParameter (owner ++ "/parameters/" ++ toString index) p

def inlineRequestBody (owner : String) (b : RequestBody) : List LocatedSchema :=
  inlineContent owner b.content

def inlineResponse (owner : String) (r : Response) : List LocatedSchema :=
  inlineContent owner r.content

def inlineOperation (site : OperationSite) : List LocatedSchema :=
  inlineParameters site.pointer site.operation.parameters ++
  (site.operation.requestBody.toList.flatMap
    (inlinePart inlineRequestBody (site.pointer ++ "/requestBody"))) ++
  site.operation.responses.flatMap fun (status, response) =>
    inlinePart inlineResponse (Pointer.child (site.pointer ++ "/responses") status) response

def inlineComponents {α : Type} (list : String → α → List LocatedSchema) (sort : String)
    (table : Table (RefOr α)) : List LocatedSchema :=
  table.flatMap fun (name, part) => inlinePart list (Pointer.component sort name) part

/-- All schemas given in place: those of path items, then those of operations,
then those of components. -/
def Document.inlineSchemas (d : Document) : List LocatedSchema :=
  (d.paths.flatMap fun (path, item) =>
    inlineParameters (Pointer.path path) item.parameters) ++
  d.operations.flatMap inlineOperation ++
  inlineComponents inlineParameter "parameters" d.allComponents.parameters ++
  inlineComponents inlineRequestBody "requestBodies" d.allComponents.requestBodies ++
  inlineComponents inlineResponse "responses" d.allComponents.responses

end ApiReview
