import ApiReview.Checks.Nodes
import ApiReview.Document.Inline
import ApiReview.Review.Session

/-!
# Schemas

Every component schema is walked once from its root.  The walk enters the
references to other component schemas into the session and checks each node.
Schemas given in place are walked too, but enter no references.
-/

namespace ApiReview.Checks

/-- The findings about a visit, whether it is to a reference or not. -/
def visitFindings (d : Document) (v : Visit) : List Finding :=
  if v.schema.isReference then referenceFindings d v else nodeFindings d v

/-- The finding about a component schema that refers to itself. -/
def selfReference (name path : String) : Finding :=
  .of .selfReferencingSchema ("Schema '" ++ name ++ "' references itself at " ++ path) path

/-- The component schemas that are referred to along a walk, in its order. -/
def walkTargets (visits : List Visit) : List String :=
  visits.filterMap fun v => v.schema.componentTarget?

/-- The findings along the walk over the component schema `name`, where a
reference to itself is reported at its first place only. -/
def componentWalkFindings (d : Document) (name : String) : Bool → List Visit → List Finding
  | _, [] => []
  | reported, v :: rest =>
    let toItself := v.schema.componentTarget? == some name
    (if toItself && !reported then [selfReference name v.path] else []) ++
      visitFindings d v ++ componentWalkFindings d name (reported || toItself) rest

/-- The findings about the component schema `name`. -/
def componentSchemaFindings (d : Document) (name : String) (s : Schema) : List Finding :=
  let pointer := Pointer.schema name
  (componentWalkFindings d name false (s.walk pointer [])).map
    (·.about name pointer "schema")

/-- The findings about a schema given in place. -/
def inlineSchemaFindings (d : Document) (located : LocatedSchema) : List Finding :=
  (located.2.walk located.1 []).flatMap (visitFindings d)

def checkComponentSchema (d : Document) (s : Session) (entry : String × Schema) : Session :=
  let (name, schema) := entry
  let targets := walkTargets (schema.walk (Pointer.schema name) [])
  let s := targets.foldl (fun s target => s.addReference name target) (s.register name)
  s.pushAll (componentSchemaFindings d name schema)

def schemas : Check where
  name := "schemas"
  run d s :=
    (d.schemas.foldl (checkComponentSchema d) s).pushAll
      (d.inlineSchemas.flatMap (inlineSchemaFindings d))

end ApiReview.Checks
