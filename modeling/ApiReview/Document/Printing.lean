import ApiReview.Document.Model

/-!
# Printing documents

A document is printed back as a JSON value with all fields in their declared
order.  An absent field is printed as null, except in a schema, where absent and
empty fields are left out; an empty list of enum values is kept, as it is not
the same as an absent one.
-/

namespace ApiReview

open Json (Value)

/-- An optional part, null when it is absent. -/
def Json.Value.ofOption {α : Type} (print : α → Value) : Option α → Value
  | some a => print a
  | none => .null

def Json.Value.ofList {α : Type} (print : α → Value) (items : List α) : Value :=
  .array (items.map print)

def Json.Value.ofTable {α : Type} (print : α → Value) (entries : Table α) : Value :=
  .object (entries.map fun (name, a) => (name, print a))

/-- A field that is left out when it is absent. -/
def Json.presentField {α : Type} (name : String) (print : α → Value) :
    Option α → Table Value
  | some a => [(name, print a)]
  | none => []

/-- A field that is left out when it is empty. -/
def Json.filledField {α : Type} (name : String) (print : List α → Value) :
    List α → Table Value
  | [] => []
  | items => [(name, print items)]

open Json (presentField filledField)

namespace TypeNames

def toJson : TypeNames → Value
  | .single name => .string name
  | .several names => .ofTexts names

end TypeNames

namespace Discriminator

def toJson (d : Discriminator) : Value :=
  .object
    [("propertyName", .ofText? d.propertyName),
     ("mapping", .ofTable Value.string d.mapping)]

end Discriminator

mutual

def Schema.toJson : Schema → Value
  | ⟨k, properties, items, allOf, oneOf, anyOf, additional⟩ =>
    .object <|
      presentField "$ref" Value.string k.reference ++
      presentField "type" TypeNames.toJson k.type ++
      presentField "format" Value.string k.format ++
      presentField "title" Value.string k.title ++
      presentField "description" Value.string k.description ++
      filledField "properties" Value.object (schemaMembers properties) ++
      presentField "items" id (optionalSchema items) ++
      filledField "allOf" Value.array (schemaItems allOf) ++
      filledField "oneOf" Value.array (schemaItems oneOf) ++
      filledField "anyOf" Value.array (schemaItems anyOf) ++
      presentField "enum" Value.array k.enumValues ++
      presentField "discriminator" Discriminator.toJson k.discriminator ++
      filledField "required" Value.ofTexts k.required ++
      presentField "minimum" Value.ofBinary64 k.minimum ++
      presentField "maximum" Value.ofBinary64 k.maximum ++
      presentField "minLength" Value.ofNat k.minLength ++
      presentField "maxLength" Value.ofNat k.maxLength ++
      presentField "minItems" Value.ofNat k.minItems ++
      presentField "maxItems" Value.ofNat k.maxItems ++
      presentField "minProperties" Value.ofNat k.minProperties ++
      presentField "maxProperties" Value.ofNat k.maxProperties ++
      presentField "pattern" Value.string k.pattern ++
      presentField "additionalProperties" id (optionalAdditional additional) ++
      presentField "nullable" Value.bool k.nullable

def schemaMembers : List (String × Schema) → Table Value
  | [] => []
  | (name, s) :: rest => (name, s.toJson) :: schemaMembers rest

def schemaItems : List Schema → List Value
  | [] => []
  | s :: rest => s.toJson :: schemaItems rest

def optionalSchema : Option Schema → Option Value
  | none => none
  | some s => some s.toJson

/-- The printed rule for additional properties, if there is one. -/
def optionalAdditional : Option (Additional Schema) → Option Value
  | none => none
  | some (.allowed flag) => some (.bool flag)
  | some (.valued s) => some s.toJson

end

namespace RefOr

/-- The printed part, or an object with its reference. -/
def toJson {α : Type} (print : α → Value) : RefOr α → Value
  | .ref reference => .object [("$ref", .string reference)]
  | .item value => print value

end RefOr

namespace MediaType

def toJson (m : MediaType) : Value :=
  .object [("schema", .ofOption Schema.toJson m.schema)]

end MediaType

namespace Parameter

def toJson (p : Parameter) : Value :=
  .object
    [("name", .ofText? p.name),
     ("in", .string p.place.word),
     ("required", .ofOption .bool p.required),
     ("schema", .ofOption Schema.toJson p.schema),
     ("content", .ofTable MediaType.toJson p.content)]

end Parameter

namespace RequestBody

def toJson (b : RequestBody) : Value :=
  .object
    [("description", .ofText? b.description),
     ("required", .ofOption .bool b.required),
     ("content", .ofTable MediaType.toJson b.content)]

end RequestBody

namespace Response

def toJson (r : Response) : Value :=
  .object
    [("description", .ofText? r.description),
     ("content", .ofTable MediaType.toJson r.content)]

end Response

namespace SecurityScheme

def toJson (s : SecurityScheme) : Value :=
  .object
    [("type", .ofText? s.type), ("scheme", .ofText? s.scheme),
     ("flows", .ofOption id s.flows)]

end SecurityScheme

def SecurityRequirement.toJson (r : SecurityRequirement) : Value :=
  .ofTable Value.ofTexts r

namespace Operation

def toJson (o : Operation) : Value :=
  .object
    [("operationId", .ofText? o.operationId),
     ("summary", .ofText? o.summary),
     ("tags", .ofTexts o.tags),
     ("parameters", .ofList (RefOr.toJson Parameter.toJson) o.parameters),
     ("requestBody", .ofOption (RefOr.toJson RequestBody.toJson) o.requestBody),
     ("responses", .ofTable (RefOr.toJson Response.toJson) o.responses),
     ("security", .ofOption (.ofList SecurityRequirement.toJson) o.security)]

end Operation

namespace PathItem

def toJson (i : PathItem) : Value :=
  .object <|
    ("parameters", .ofList (RefOr.toJson Parameter.toJson) i.parameters) ::
      Method.all.map fun m => (m.name, .ofOption Operation.toJson (i.operation? m))

end PathItem

namespace Components

def toJson (c : Components) : Value :=
  .object
    [("schemas", .ofTable Schema.toJson c.schemas),
     ("parameters", .ofTable (RefOr.toJson Parameter.toJson) c.parameters),
     ("requestBodies", .ofTable (RefOr.toJson RequestBody.toJson) c.requestBodies),
     ("responses", .ofTable (RefOr.toJson Response.toJson) c.responses),
     ("securitySchemes", .ofTable (RefOr.toJson SecurityScheme.toJson) c.securitySchemes)]

end Components

namespace Info

/-- The printed `info` object. -/
def toJson (i : Info) : Value :=
  .object
    [("title", .ofText? i.title), ("version", .ofText? i.version),
     ("description", .ofText? i.description)]

end Info

namespace Server

def toJson (s : Server) : Value :=
  .object [("url", .ofText? s.url), ("description", .ofText? s.description)]

end Server

namespace Tag

def toJson (t : Tag) : Value :=
  .object [("name", .string t.name), ("description", .ofText? t.description)]

end Tag

namespace Document

def toJson (d : Document) : Value :=
  .object
    [("openapi", .ofText? d.openapi),
     ("info", .ofOption Info.toJson d.info),
     ("servers", .ofList Server.toJson d.servers),
     ("paths", .ofTable PathItem.toJson d.paths),
     ("components", .ofOption Components.toJson d.components),
     ("tags", .ofList Tag.toJson d.tags),
     ("security", .ofList SecurityRequirement.toJson d.security)]

end Document

end ApiReview
