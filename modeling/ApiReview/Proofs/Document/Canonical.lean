import ApiReview.Proofs.Document.Distinct
import ApiReview.Proofs.Reading.JsonInputs

/-!
# Canonical documents

Readers leave traces in what they read.  A table that was read holds a name once,
and every schema and every security scheme has whatever property its reader brings
about; the flows of a scheme that comes from a JSON value are never the null that
stands for absent ones.  A document with these traces all over is canonical; in
particular its names are distinct.
-/

namespace ApiReview

variable {α : Type}

structure SecurityScheme.Canonical (s : SecurityScheme) : Prop where
  flows : ∀ v, s.flows = some v → v.Distinct ∧ v ≠ .null

section Parts

variable (inner : Schema → Prop) (scheme : SecurityScheme → Prop)

structure MediaType.Canonical (m : MediaType) : Prop where
  schema : ∀ s, m.schema = some s → inner s

structure Parameter.Canonical (p : Parameter) : Prop where
  schema : ∀ s, p.schema = some s → inner s
  content : p.content.Canonical (MediaType.Canonical inner)

structure RequestBody.Canonical (b : RequestBody) : Prop where
  content : b.content.Canonical (MediaType.Canonical inner)

structure Response.Canonical (r : Response) : Prop where
  content : r.content.Canonical (MediaType.Canonical inner)

structure Operation.Canonical (o : Operation) : Prop where
  parameters : ∀ part ∈ o.parameters, part.InPlace (Parameter.Canonical inner)
  requestBody : ∀ part, o.requestBody = some part →
    part.InPlace (RequestBody.Canonical inner)
  responses : o.responses.Canonical (RefOr.InPlace (Response.Canonical inner))
  security : ∀ requirements, o.security = some requirements →
    ∀ r ∈ requirements, Table.Distinct r

structure PathItem.Canonical (item : PathItem) : Prop where
  parameters : ∀ part ∈ item.parameters, part.InPlace (Parameter.Canonical inner)
  operations : ∀ method o, item.operation? method = some o → o.Canonical inner

structure Components.Canonical (c : Components) : Prop where
  schemas : c.schemas.Canonical inner
  parameters : c.parameters.Canonical (RefOr.InPlace (Parameter.Canonical inner))
  requestBodies : c.requestBodies.Canonical (RefOr.InPlace (RequestBody.Canonical inner))
  responses : c.responses.Canonical (RefOr.InPlace (Response.Canonical inner))
  securitySchemes : c.securitySchemes.Canonical (RefOr.InPlace scheme)

/-- Every table of a document holds a name once, and every schema that stands in
it outside of other schemas has a property, as has every security scheme. -/
structure Document.Canonical (d : Document) : Prop where
  paths : d.paths.Canonical (PathItem.Canonical inner)
  components : ∀ c, d.components = some c → c.Canonical inner scheme
  security : ∀ r ∈ d.security, Table.Distinct r

end Parts

section Distinct

variable {inner : Schema → Prop} {scheme : SecurityScheme → Prop}

theorem RefOr.InPlace.mono {property weaker : α → Prop} {part : RefOr α}
    (imp : ∀ a, property a → weaker a) (inPlace : part.InPlace property) :
    part.InPlace weaker :=
  fun a given => imp a (inPlace a given)

theorem Table.Canonical.partsDistinct {property weaker : α → Prop} {t : Table (RefOr α)}
    (imp : ∀ a, property a → weaker a) (canonical : t.Canonical (RefOr.InPlace property)) :
    t.PartsDistinct weaker :=
  ⟨canonical.names, fun name part entry => (canonical.values name part entry).mono imp⟩

theorem Operation.Canonical.distinct {o : Operation} (canonical : o.Canonical inner) :
    o.Distinct where
  parameters part member := (canonical.parameters part member).mono fun _ p => p.content.names
  requestBody part given := (canonical.requestBody part given).mono fun _ b => b.content.names
  responses := canonical.responses.partsDistinct fun _ r => r.content.names

theorem PathItem.Canonical.distinct {item : PathItem} (canonical : item.Canonical inner) :
    item.Distinct where
  parameters part member := (canonical.parameters part member).mono fun _ p => p.content.names
  operations method o declared := (canonical.operations method o declared).distinct

theorem Components.Canonical.distinct {c : Components} (canonical : c.Canonical inner scheme) :
    c.Distinct where
  schemas := canonical.schemas.names
  parameters := canonical.parameters.partsDistinct fun _ p => p.content.names
  requestBodies := canonical.requestBodies.partsDistinct fun _ b => b.content.names
  responses := canonical.responses.partsDistinct fun _ r => r.content.names
  securitySchemes := canonical.securitySchemes.names

/-- Canonical documents have distinct names in their tables. -/
theorem Document.Canonical.distinct {d : Document} (canonical : d.Canonical inner scheme) :
    d.Distinct where
  paths := canonical.paths.names
  items path item entry := (canonical.paths.values path item entry).distinct
  components c given := (canonical.components c given).distinct

end Distinct

end ApiReview
