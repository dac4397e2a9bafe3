import ApiReview.Proofs.Document.InlineListing
import ApiReview.Proofs.Json.Following

/-!
# Pointers into printed documents

The pointers of the schemas given in place and of the operations lead to these
parts in the printed document: the keys of a place are the keys under which the
printer puts the schema.
-/

namespace ApiReview

open Json (Value)

variable {α : Type} {keys : List String} {s : Schema}

theorem PartHolds.follow? {holds : α → Places} {print : α → Value} {part : RefOr α}
    (leads : ∀ value, part = .item value → holds value keys s →
      (print value).follow? keys = some s.toJson)
    (held : PartHolds holds part keys s) :
    (part.toJson print).follow? keys = some s.toJson := by
  obtain ⟨inside⟩ := held
  exact leads _ rfl inside

theorem follow?_schema {v : Value} {schema : Option Schema} (given : schema = some s)
    (step : v.step? "schema" = some (.ofOption Schema.toJson schema)) :
    v.follow? ["schema"] = some s.toJson := by
  rw [Value.follow?_cons step, given]
  rfl

theorem ContentHolds.follow? {content : Table MediaType} (distinct : content.Distinct)
    (held : ContentHolds content keys s) {v : Value}
    (step : v.step? "content" = some (.ofTable MediaType.toJson content)) :
    v.follow? keys = some s.toJson := by
  obtain ⟨entry, given⟩ := held
  rw [Value.follow?_cons step, Value.follow?_cons (Value.step?_ofTable distinct entry)]
  exact follow?_schema given rfl

theorem Parameter.Holds.follow? {p : Parameter} (distinct : p.Distinct)
    (held : p.Holds keys s) : p.toJson.follow? keys = some s.toJson := by
  cases held with
  | schema given => exact follow?_schema given rfl
  | content inside => exact inside.follow? distinct rfl

theorem RequestBody.Holds.follow? {b : RequestBody} (distinct : b.Distinct)
    (held : b.Holds keys s) : b.toJson.follow? keys = some s.toJson :=
  ContentHolds.follow? distinct held rfl

theorem Response.Holds.follow? {r : Response} (distinct : r.Distinct)
    (held : r.Holds keys s) : r.toJson.follow? keys = some s.toJson :=
  ContentHolds.follow? distinct held rfl

theorem ParametersHold.follow? {parameters : List (RefOr Parameter)}
    (distinct : ∀ part ∈ parameters, part.InPlace Parameter.Distinct)
    (held : ParametersHold parameters keys s) {v : Value}
    (step : v.step? "parameters" = some (.ofList (RefOr.toJson Parameter.toJson) parameters)) :
    v.follow? keys = some s.toJson := by
  obtain ⟨item, inside⟩ := held
  rw [Value.follow?_cons step, Value.follow?_cons (Value.step?_ofList item)]
  exact inside.follow? fun p given held =>
    held.follow? (distinct _ (List.mem_of_getElem? item) p given)

theorem TableHolds.follow? {holds : α → Places} {property : α → Prop} {print : α → Value}
    {table : Table (RefOr α)} (distinct : table.PartsDistinct property)
    (leads : ∀ keys value, property value → holds value keys s →
      (print value).follow? keys = some s.toJson)
    (held : TableHolds holds table keys s) :
    (Value.ofTable (RefOr.toJson print) table).follow? keys = some s.toJson := by
  obtain ⟨entry, inside⟩ := held
  rw [Value.follow?_cons (Value.step?_ofTable distinct.names entry)]
  exact inside.follow? fun value given held =>
    leads _ value (distinct.parts _ _ entry value given) held

theorem Operation.Holds.follow? {o : Operation} (distinct : o.Distinct)
    (held : o.Holds keys s) : o.toJson.follow? keys = some s.toJson := by
  cases held with
  | parameter inside => exact inside.follow? distinct.parameters rfl
  | @requestBody part rest _ given inside =>
      have body : o.toJson.step? "requestBody" = some (part.toJson RequestBody.toJson) := by
        rw [Operation.toJson, given]
        rfl
      rw [Value.follow?_cons body]
      exact inside.follow? fun b here held => held.follow? (distinct.requestBody part given b here)
  | @response rest _ inside =>
      have responses : o.toJson.step? "responses" =
          some (.ofTable (RefOr.toJson Response.toJson) o.responses) := rfl
      rw [Value.follow?_cons responses]
      exact inside.follow? distinct.responses fun _ _ distinct held => held.follow? distinct

theorem PathItem.step?_name {item : PathItem} {method : Method} {o : Operation}
    (declared : item.operation? method = some o) :
    item.toJson.step? method.name = some o.toJson := by
  have found : item.toJson.step? method.name =
      some (.ofOption Operation.toJson (item.operation? method)) := by
    cases method <;> rfl
  rw [found, declared]
  rfl

theorem PathItem.Holds.follow? {item : PathItem} (distinct : item.Distinct)
    (held : item.Holds keys s) : item.toJson.follow? keys = some s.toJson := by
  cases held with
  | parameter inside => exact inside.follow? distinct.parameters rfl
  | @operation method o rest _ declared inside =>
      rw [Value.follow?_cons (PathItem.step?_name declared)]
      exact inside.follow? (distinct.operations method o declared)

theorem Components.not_holds_empty : ¬({} : Components).Holds keys s := by
  rintro (⟨entry, -⟩ | ⟨entry, -⟩ | ⟨entry, -⟩) <;> cases entry

theorem Components.Holds.follow? {c : Components} (distinct : c.Distinct)
    (held : c.Holds keys s) : c.toJson.follow? keys = some s.toJson := by
  cases held with
  | parameter inside =>
      have sort : c.toJson.step? "parameters" =
          some (.ofTable (RefOr.toJson Parameter.toJson) c.parameters) := rfl
      rw [Value.follow?_cons sort]
      exact inside.follow? distinct.parameters fun _ _ distinct held => held.follow? distinct
  | requestBody inside =>
      have sort : c.toJson.step? "requestBodies" =
          some (.ofTable (RefOr.toJson RequestBody.toJson) c.requestBodies) := rfl
      rw [Value.follow?_cons sort]
      exact inside.follow? distinct.requestBodies fun _ _ distinct held => held.follow? distinct
  | response inside =>
      have sort : c.toJson.step? "responses" =
          some (.ofTable (RefOr.toJson Response.toJson) c.responses) := rfl
      rw [Value.follow?_cons sort]
      exact inside.follow? distinct.responses fun _ _ distinct held => held.follow? distinct

namespace Document

variable {d : Document}

theorem follow?_path (distinct : d.Distinct) {path : String} {item : PathItem}
    (entry : (path, item) ∈ d.paths) :
    d.toJson.follow? ("paths" :: path :: keys) = item.toJson.follow? keys := by
  have paths : d.toJson.step? "paths" = some (.ofTable PathItem.toJson d.paths) := rfl
  rw [Value.follow?_cons paths, Value.follow?_cons (Value.step?_ofTable distinct.paths entry)]

/-- The keys of a place lead to the printed schema. -/
theorem Holds.follow? (distinct : d.Distinct) (held : d.Holds keys s) :
    d.toJson.follow? keys = some s.toJson := by
  cases held with
  | path entry inside =>
      rw [follow?_path distinct entry]
      exact inside.follow? (distinct.items _ _ entry)
  | component inside =>
      cases given : d.components with
      | none =>
          simp only [allComponents, given, Option.getD_none] at inside
          exact absurd inside Components.not_holds_empty
      | some c =>
          have components : d.toJson.step? "components" = some c.toJson := by
            rw [Document.toJson, given]
            rfl
          rw [Value.follow?_cons components]
          simp only [allComponents, given, Option.getD_some] at inside
          exact inside.follow? (distinct.components c given)

theorem resolve?_operation (distinct : d.Distinct) {site : OperationSite}
    (member : site ∈ d.operations) :
    d.toJson.resolve? site.pointer = some site.operation.toJson := by
  obtain ⟨entry, declared⟩ := mem_operations.mp member
  rw [site.pointer_eq, Value.resolve?_ofKeys, follow?_path distinct entry,
    Value.follow?_cons (PathItem.step?_name declared)]
  rfl

theorem resolve?_inlineSchemas (distinct : d.Distinct) {pointer : String}
    (member : (pointer, s) ∈ d.inlineSchemas) : d.toJson.resolve? pointer = some s.toJson := by
  obtain ⟨keys, held, rfl⟩ := ((d.pointsTo_inlineSchemas distinct).mem_iff pointer s).mp member
  rw [Value.resolve?_ofKeys, List.nil_append, held.follow? distinct]

/-- The schemas given in place and the operations are found where their pointers
say.  The list of the schemas has different pointers, each leads to the printed
form of its schema, and every place of a schema is listed exactly once. -/
theorem inlineSchemas_resolve (d : Document) (distinct : d.Distinct) :
    (d.inlineSchemas.map Prod.fst).Nodup ∧
    (∀ pointer s, (pointer, s) ∈ d.inlineSchemas →
      d.toJson.resolve? pointer = some s.toJson ∧
      ∃ keys, d.Holds keys s ∧ pointer = Pointer.ofKeys keys) ∧
    (∀ keys s, d.Holds keys s →
      ∃! index : Nat, d.inlineSchemas[index]? = some (Pointer.ofKeys keys, s)) ∧
    ∀ site ∈ d.operations, d.toJson.resolve? site.pointer = some site.operation.toJson := by
  have listed := d.pointsTo_inlineSchemas distinct
  refine ⟨listed.nodup, ?_, ?_, fun site => resolve?_operation distinct⟩
  · intro pointer s member
    obtain ⟨keys, held, points⟩ := (listed.mem_iff pointer s).mp member
    exact ⟨resolve?_inlineSchemas distinct member, keys, held, points⟩
  · intro keys s held
    have member : (Pointer.ofKeys keys, s) ∈ d.inlineSchemas :=
      (listed.mem_iff _ s).mpr ⟨keys, held, rfl⟩
    obtain ⟨index, found⟩ := List.mem_iff_getElem?.mp member
    refine ⟨index, found, fun other foundOther => ?_⟩
    have pointers : (d.inlineSchemas.map Prod.fst)[index]? =
        (d.inlineSchemas.map Prod.fst)[other]? := by
      simp only [List.getElem?_map, found, foundOther]
    have inside : index < (d.inlineSchemas.map Prod.fst).length := by
      simpa using (List.getElem?_eq_some_iff.mp found).1
    exact ((List.getElem?_inj inside listed.nodup).mp pointers).symm

/-- An operation whose status and media type are empty. -/
def emptyKeys : Operation where
  responses := [("", .item { content := [("", { schema := some {} })] })]

/-- A document with a path that needs escapes. -/
def awkwardKeys : Document where
  paths := [("/a~b/\x7bid\x7d",
    { parameters := [.item { schema := some {} }], get := some emptyKeys })]

theorem inlineSchemas_resolve_awkwardKeys :
    awkwardKeys.Distinct ∧
      awkwardKeys.inlineSchemas.map Prod.fst =
        ["#/paths/~1a~0b~1\x7bid\x7d/parameters/0/schema",
          "#/paths/~1a~0b~1\x7bid\x7d/get/responses//content//schema"] ∧
      ∀ pointer s, (pointer, s) ∈ awkwardKeys.inlineSchemas →
        awkwardKeys.toJson.resolve? pointer = some s.toJson := by
  have distinct : awkwardKeys.Distinct := by decide
  exact ⟨distinct, by decide,
    fun pointer s member => ((inlineSchemas_resolve awkwardKeys distinct).2.1 pointer s member).1⟩

end Document

end ApiReview
