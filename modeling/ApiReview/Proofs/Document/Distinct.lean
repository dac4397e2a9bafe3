import ApiReview.Document.Model

/-!
# Documents with distinct names

Paths, statuses, media types and components stand in tables.  In a document each
of these tables holds a name once at most: reading a table gives the later value
of a name the place of the earlier one.
-/

namespace ApiReview

variable {α : Type}

/-- What is given in place has a property; nothing is asked of a reference. -/
def RefOr.InPlace (property : α → Prop) (part : RefOr α) : Prop :=
  ∀ value, part = .item value → property value

/-- The names of a table are distinct, and what is given in place in it has a
property. -/
structure Table.PartsDistinct (property : α → Prop) (table : Table (RefOr α)) : Prop where
  names : table.Distinct
  parts : ∀ name part, (name, part) ∈ table → part.InPlace property

/-- The media types of a parameter are distinct. -/
def Parameter.Distinct (p : Parameter) : Prop :=
  p.content.Distinct

/-- The media types of a request body are distinct. -/
def RequestBody.Distinct (b : RequestBody) : Prop :=
  b.content.Distinct

/-- The media types of a response are distinct. -/
def Response.Distinct (r : Response) : Prop :=
  r.content.Distinct

/-- The names in the tables of an operation are distinct. -/
structure Operation.Distinct (o : Operation) : Prop where
  parameters : ∀ part ∈ o.parameters, part.InPlace Parameter.Distinct
  requestBody : ∀ part, o.requestBody = some part → part.InPlace RequestBody.Distinct
  responses : o.responses.PartsDistinct Response.Distinct

/-- The names in the tables of a path item are distinct. -/
structure PathItem.Distinct (item : PathItem) : Prop where
  parameters : ∀ part ∈ item.parameters, part.InPlace Parameter.Distinct
  operations : ∀ method o, item.operation? method = some o → o.Distinct

/-- The names of the components are distinct, sort by sort. -/
structure Components.Distinct (c : Components) : Prop where
  schemas : c.schemas.Distinct
  parameters : c.parameters.PartsDistinct Parameter.Distinct
  requestBodies : c.requestBodies.PartsDistinct RequestBody.Distinct
  responses : c.responses.PartsDistinct Response.Distinct
  securitySchemes : c.securitySchemes.Distinct

/-- The names in the tables of a document are distinct. -/
structure Document.Distinct (d : Document) : Prop where
  paths : d.paths.Distinct
  items : ∀ path item, (path, item) ∈ d.paths → item.Distinct
  components : ∀ c, d.components = some c → c.Distinct

section Decidable

instance (property : α → Prop) [DecidablePred property] (part : RefOr α) :
    Decidable (part.InPlace property) :=
  match part with
  | .ref _ => .isTrue nofun
  | .item value => decidable_of_iff (property value)
      ⟨fun has _ same => RefOr.item.inj same ▸ has, fun inPlace => inPlace value rfl⟩

instance (property : α → Prop) [DecidablePred property] (table : Table (RefOr α)) :
    Decidable (table.PartsDistinct property) :=
  decidable_of_iff (table.names.Nodup ∧ ∀ entry ∈ table, entry.2.InPlace property)
    ⟨fun ⟨names, parts⟩ => ⟨names, fun name part => parts (name, part)⟩,
      fun ⟨names, parts⟩ => ⟨names, fun entry => parts entry.1 entry.2⟩⟩

instance : DecidablePred Parameter.Distinct := fun p =>
  inferInstanceAs (Decidable p.content.names.Nodup)

instance : DecidablePred RequestBody.Distinct := fun b =>
  inferInstanceAs (Decidable b.content.names.Nodup)

instance : DecidablePred Response.Distinct := fun r =>
  inferInstanceAs (Decidable r.content.names.Nodup)

instance : DecidablePred Operation.Distinct := fun o =>
  decidable_of_iff ((∀ part ∈ o.parameters, part.InPlace Parameter.Distinct) ∧
      (∀ part ∈ o.requestBody, part.InPlace RequestBody.Distinct) ∧
      o.responses.PartsDistinct Response.Distinct)
    ⟨fun ⟨parameters, body, responses⟩ => ⟨parameters, body, responses⟩,
      fun ⟨parameters, body, responses⟩ => ⟨parameters, body, responses⟩⟩

instance : DecidablePred PathItem.Distinct := fun item =>
  decidable_of_iff ((∀ part ∈ item.parameters, part.InPlace Parameter.Distinct) ∧
      ∀ method ∈ Method.all, ∀ o ∈ item.operation? method, o.Distinct)
    ⟨fun ⟨parameters, operations⟩ =>
        ⟨parameters, fun method => operations method method.mem_all⟩,
      fun ⟨parameters, operations⟩ => ⟨parameters, fun method _ => operations method⟩⟩

instance : DecidablePred Components.Distinct := fun c =>
  decidable_of_iff (c.schemas.names.Nodup ∧ c.parameters.PartsDistinct Parameter.Distinct ∧
      c.requestBodies.PartsDistinct RequestBody.Distinct ∧
      c.responses.PartsDistinct Response.Distinct ∧ c.securitySchemes.names.Nodup)
    ⟨fun ⟨schemas, parameters, bodies, responses, schemes⟩ =>
        ⟨schemas, parameters, bodies, responses, schemes⟩,
      fun ⟨schemas, parameters, bodies, responses, schemes⟩ =>
        ⟨schemas, parameters, bodies, responses, schemes⟩⟩

instance : DecidablePred Document.Distinct := fun d =>
  decidable_of_iff (d.paths.names.Nodup ∧ (∀ entry ∈ d.paths, entry.2.Distinct) ∧
      ∀ c ∈ d.components, c.Distinct)
    ⟨fun ⟨paths, items, components⟩ => ⟨paths, fun path item => items (path, item), components⟩,
      fun ⟨paths, items, components⟩ =>
        ⟨paths, fun entry => items entry.1 entry.2, components⟩⟩

end Decidable

theorem Components.distinct_empty : ({} : Components).Distinct where
  schemas := List.nodup_nil
  parameters := ⟨List.nodup_nil, by simp⟩
  requestBodies := ⟨List.nodup_nil, by simp⟩
  responses := ⟨List.nodup_nil, by simp⟩
  securitySchemes := List.nodup_nil

theorem Document.Distinct.allComponents {d : Document} (distinct : d.Distinct) :
    d.allComponents.Distinct := by
  unfold Document.allComponents
  cases given : d.components with
  | none => exact Components.distinct_empty
  | some c => exact distinct.components c given

end ApiReview
