import ApiReview.Document.Model
import ApiReview.Reading.FromUntyped

/-!
# Reading documents

How each part of a document is read, over any format.  The order of the fields
is the order in which a list that stands for a record gives them.

Parameters, request bodies, responses and security schemes are read from untyped
values, since a reference may stand in their place.  Schemas hold schemas, so
their reader is bounded by a depth; `Document.ofJson` bounds it by the depth of
the value, and the formats bound the nesting themselves.
-/

namespace ApiReview

open ApiReview.Field (defaulted optional needed)

section Parts

variable {R : Type → Type} [Format R]

/-- The first shape that fits, or the complaint that none does. -/
def Untyped.firstShape {α : Type} (union : String) (shapes : List (FromUntyped α)) :
    FromUntyped α := fun v =>
  match shapes.findSome? fun shape => (shape v).toOption with
  | some value => .ok value
  | none => .error (.noShape union)

/-- The shape of a reference: a record whose only field is `$ref`, and which is
never given as a list. -/
def readReference : FromUntyped String
  | .sequence _ => FromUntyped.mistyped (.sequence []) "a reference"
  | v => FromUntyped.record "RefOr" [needed "$ref" Format.text fun v _ => v] "" v

/-- A part given by reference or in place. -/
def readRefOr {α : Type} (item : FromUntyped α) : R (RefOr α) :=
  Format.decide <| Untyped.firstShape "RefOr"
    [fun v => (readReference v).map .ref, fun v => (item v).map .item]

def readTypeNames : R TypeNames :=
  Format.decide <| Untyped.firstShape "SchemaType"
    [fun v => (FromUntyped.text v).map .single,
     fun v => (FromUntyped.list FromUntyped.text v).map .several]

def readDiscriminator : R Discriminator :=
  Format.record "Discriminator"
    [optional "propertyName" Format.text fun v d => { d with propertyName := v },
     defaulted "mapping" (Format.table Format.text) fun v d => { d with mapping := v }]
    {}

/-- A flag, or a schema for the values. -/
def readAdditional (schema : FromUntyped Schema) : R (Additional Schema) :=
  Format.decide <| Untyped.firstShape "AdditionalProperties"
    [fun v => (FromUntyped.flag v).map .allowed, fun v => (schema v).map .valued]

/-- The fields of a schema, given readers of the schemas inside of it. -/
def schemaFields (inner : R Schema) (additional : FromUntyped Schema) :
    List (Field R Schema) :=
  [optional "$ref" Format.text fun v s => { s with reference := v },
   optional "type" readTypeNames fun v s => { s with type := v },
   optional "format" Format.text fun v s => { s with format := v },
   optional "title" Format.text fun v s => { s with title := v },
   optional "description" Format.text fun v s => { s with description := v },
   defaulted "properties" (Format.table inner) fun v s => { s with properties := v },
   optional "items" inner fun v s => { s with items := v },
   defaulted "allOf" (Format.list inner) fun v s => { s with allOf := v },
   defaulted "oneOf" (Format.list inner) fun v s => { s with oneOf := v },
   defaulted "anyOf" (Format.list inner) fun v s => { s with anyOf := v },
   optional "enum" (Format.list Format.json) fun v s => { s with enumValues := v },
   optional "discriminator" readDiscriminator fun v s => { s with discriminator := v },
   defaulted "required" (Format.list Format.text) fun v s => { s with required := v },
   optional "minimum" Format.number fun v s => { s with minimum := v },
   optional "maximum" Format.number fun v s => { s with maximum := v },
   optional "minLength" Format.count fun v s => { s with minLength := v },
   optional "maxLength" Format.count fun v s => { s with maxLength := v },
   optional "minItems" Format.count fun v s => { s with minItems := v },
   optional "maxItems" Format.count fun v s => { s with maxItems := v },
   optional "minProperties" Format.count fun v s => { s with minProperties := v },
   optional "maxProperties" Format.count fun v s => { s with maxProperties := v },
   optional "pattern" Format.text fun v s => { s with pattern := v },
   optional "additionalProperties" (readAdditional additional)
     fun v s => { s with additional := v },
   optional "nullable" Format.flag fun v s => { s with nullable := v }]

/-- A schema from an untyped value, with schemas nested up to a depth. -/
def schemaFromUntyped : Nat → FromUntyped Schema
  | 0, _ => .error (.custom "recursion limit exceeded")
  | depth + 1, v =>
    let inner : FromUntyped Schema := fun w => schemaFromUntyped depth w
    FromUntyped.record "Schema" (schemaFields inner inner) {} v

/-- A schema, with schemas nested up to a depth. -/
def readSchema : Nat → R Schema
  | 0 => Format.decide fun _ => .error (.custom "recursion limit exceeded")
  | depth + 1 =>
    let inner : R Schema := Format.delay fun _ => readSchema depth
    Format.record "Schema" (schemaFields inner fun v => schemaFromUntyped depth v) {}

end Parts

section InPlace

variable (depth : Nat)

/-- What is sent under one media type. -/
def readMediaType : FromUntyped MediaType :=
  Format.record "MediaType"
    [optional "schema" (schemaFromUntyped depth) fun v m => { m with schema := v }] {}

def parameterPlaces : List (String × ParameterPlace) :=
  [ParameterPlace.path, .query, .header, .cookie].map fun p => (p.word, p)

/-- A parameter given in place. -/
def readParameter : FromUntyped Parameter :=
  Format.record "Parameter"
    [optional "name" Format.text fun v p => { p with name := v },
     needed "in" (FromUntyped.choice parameterPlaces) fun v p => { p with place := v },
     optional "required" Format.flag fun v p => { p with required := v },
     optional "schema" (schemaFromUntyped depth) fun v p => { p with schema := v },
     defaulted "content" (Format.table (readMediaType depth))
       fun v p => { p with content := v }]
    {}

def readRequestBody : FromUntyped RequestBody :=
  Format.record "RequestBody"
    [optional "description" Format.text fun v b => { b with description := v },
     optional "required" Format.flag fun v b => { b with required := v },
     defaulted "content" (Format.table (readMediaType depth))
       fun v b => { b with content := v }]
    {}

/-- A response given in place. -/
def readResponse : FromUntyped Response :=
  Format.record "Response"
    [optional "description" Format.text fun v r => { r with description := v },
     defaulted "content" (Format.table (readMediaType depth))
       fun v r => { r with content := v }]
    {}

def readSecurityScheme : FromUntyped SecurityScheme :=
  Format.record "SecurityScheme"
    [optional "type" Format.text fun v s => { s with type := v },
     optional "scheme" Format.text fun v s => { s with scheme := v },
     optional "flows" Format.json fun v s => { s with flows := v }]
    {}

end InPlace

section Whole

variable {R : Type → Type} [Format R]

/-- The `info` object. -/
def readInfo : R Info :=
  Format.record "Info"
    [optional "title" Format.text fun v i => { i with title := v },
     optional "version" Format.text fun v i => { i with version := v },
     optional "description" Format.text fun v i => { i with description := v }]
    {}

def readServer : R Server :=
  Format.record "Server"
    [optional "url" Format.text fun v s => { s with url := v },
     optional "description" Format.text fun v s => { s with description := v }]
    {}

/-- A tag, whose name has to be given. -/
def readTag : R Tag :=
  Format.record "Tag"
    [needed "name" Format.text fun v t => { t with name := v },
     optional "description" Format.text fun v t => { t with description := v }]
    {}

def readSecurityRequirement : R SecurityRequirement :=
  Format.table (Format.list Format.text)

variable (depth : Nat)

def readOperation : R Operation :=
  Format.record "Operation"
    [optional "operationId" Format.text fun v o => { o with operationId := v },
     optional "summary" Format.text fun v o => { o with summary := v },
     defaulted "tags" (Format.list Format.text) fun v o => { o with tags := v },
     defaulted "parameters" (Format.list (readRefOr (readParameter depth)))
       fun v o => { o with parameters := v },
     optional "requestBody" (readRefOr (readRequestBody depth))
       fun v o => { o with requestBody := v },
     defaulted "responses" (Format.table (readRefOr (readResponse depth)))
       fun v o => { o with responses := v },
     optional "security" (Format.list readSecurityRequirement)
       fun v o => { o with security := v }]
    {}

def readPathItem : R PathItem :=
  Format.record "PathItem"
    (defaulted "parameters" (Format.list (readRefOr (readParameter depth)))
        (fun v i => { i with parameters := v }) ::
      Method.all.map fun m =>
        optional m.name (readOperation depth) fun v i => i.setOperation m v)
    {}

def readComponents : R Components :=
  Format.record "Components"
    [defaulted "schemas" (Format.table (readSchema depth))
       fun v c => { c with schemas := v },
     defaulted "parameters" (Format.table (readRefOr (readParameter depth)))
       fun v c => { c with parameters := v },
     defaulted "requestBodies" (Format.table (readRefOr (readRequestBody depth)))
       fun v c => { c with requestBodies := v },
     defaulted "responses" (Format.table (readRefOr (readResponse depth)))
       fun v c => { c with responses := v },
     defaulted "securitySchemes" (Format.table (readRefOr readSecurityScheme))
       fun v c => { c with securitySchemes := v }]
    {}

def readDocument : R Document :=
  Format.record "OpenApiDocument"
    [optional "openapi" Format.text fun v d => { d with openapi := v },
     optional "info" readInfo fun v d => { d with info := v },
     defaulted "servers" (Format.list readServer) fun v d => { d with servers := v },
     defaulted "paths" (Format.table (readPathItem depth)) fun v d => { d with paths := v },
     optional "components" (readComponents depth) fun v d => { d with components := v },
     defaulted "tags" (Format.list readTag) fun v d => { d with tags := v },
     defaulted "security" (Format.list readSecurityRequirement)
       fun v d => { d with security := v }]
    {}

end Whole

/-- Read a typed value from a JSON value; the reader gets a bound for the depth
of the schemas in it. -/
def Json.Value.read {α : Type} (v : Json.Value) (reader : Nat → FromUntyped α) :
    Except Complaint α :=
  let u := Untyped.ofJson v
  reader (u.depth + 1) u

/-- The document that a JSON value describes. -/
def Document.ofJson (v : Json.Value) : Except Complaint Document :=
  v.read fun depth => readDocument depth

end ApiReview
