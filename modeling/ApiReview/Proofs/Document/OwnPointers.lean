import ApiReview.Proofs.Document.Distinct
import ApiReview.Proofs.Document.Pointers
import ApiReview.Proofs.Review.EnteredReferences
import ApiReview.Proofs.Text.Cut

/-!
# Reading own pointers

The pointer to a component escapes its name, while a reference is looked up by
the text of its last segments as it is.  So the pointer to a component is read as
its escaped name: it is understood exactly when the name needs no escapes.
-/

namespace ApiReview

open Pointer (escape Plain)

namespace Schema

variable {node : Schema} {name : String}

theorem componentTarget?_of_reference (refers : node.reference = some (Pointer.schema name)) :
    node.componentTarget? = some (escape name) := by
  rw [componentTarget?, refers, Option.bind_some, Pointer.schema, Text.dropOpening?_append]

theorem referenceTarget_of_reference (refers : node.reference = some (Pointer.schema name)) :
    node.referenceTarget = some (escape name) := by
  rw [referenceTarget, refers, Option.map_some, Pointer.schema, Text.dropOpening?_append,
    Option.getD_some]

end Schema

namespace RefOr

variable {α : Type} {sort name : String} {table : Table (RefOr α)} {value : α}

theorem key_component : key (Pointer.component sort name) = escape name := by
  have parts : Pointer.component sort name =
      "#/components/" ++ sort ++ String.singleton '/' ++ escape name := rfl
  rw [key, parts, Text.afterLast_append Pointer.slash_notMem_escape]

theorem resolve_component :
    (RefOr.ref (Pointer.component sort name)).resolve table =
      (table.get? (escape name)).bind (resolveWithin table 16) := by
  rw [resolve, maxHops, resolveWithin, key_component]

/-- The pointers to the parts of a table lead to them when their names need no
escapes, and nowhere when they do, unless the escaped name is a name too. -/
structure PlainPointersOnly (sort : String) (table : Table (RefOr α)) : Prop where
  plain : ∀ name value, (name, .item value) ∈ table → Plain name →
    (RefOr.ref (Pointer.component sort name)).resolve table = some value
  escaped : ∀ name value, (name, .item value) ∈ table → ¬Plain name →
    escape name ∉ table.names →
    (RefOr.ref (Pointer.component sort name)).resolve table = none

theorem plainPointersOnly (sort : String) (distinct : table.Distinct) :
    PlainPointersOnly sort table where
  plain name value entry plain := by
    rw [resolve_component, Pointer.escape_eq_self_iff.mpr plain,
      distinct.get?_eq_some_iff.mpr entry, Option.bind_some, resolveWithin]
  escaped name value _ _ absent := by
    have missing : table.get? (escape name) = none :=
      Option.not_isSome_iff_eq_none.mp fun found => absent (Table.get?_isSome_iff.mp found)
    rw [resolve_component, missing, Option.bind_none]

end RefOr

namespace Document

variable {d : Document} {name : String}

theorem isSome_schema? : (d.schema? name).isSome = true ↔ name ∈ d.schemas.names :=
  Table.get?_isSome_iff

/-- A node that holds the pointer to a component schema adds a reference to the
escaped name. -/
theorem refersTo_of_reference {source : String} {body node : Schema}
    (entry : (source, body) ∈ d.schemas) (reaches : body.Reaches node)
    (refers : node.reference = some (Pointer.schema name)) :
    d.references.RefersTo source (escape name) :=
  refersTo_references.mpr
    ⟨body, node, entry, reaches, Schema.componentTarget?_of_reference refers⟩

theorem visitFindings_eq_nil_iff {visit : Visit}
    (refers : visit.schema.reference = some (Pointer.schema name)) :
    Checks.visitFindings d visit = [] ↔ escape name ∈ d.schemas.names := by
  have isReference : visit.schema.isReference = true := by
    rw [Schema.isReference, refers, Option.isSome_some]
  rw [Checks.visitFindings, if_pos isReference, Checks.referenceFindings,
    Schema.componentTarget?_of_reference refers, ← isSome_schema?]
  simp [Option.isSome_iff_ne_none]

theorem mappingTargetExists_schema :
    Checks.mappingTargetExists d (Pointer.schema name) = true ↔ escape name ∈ d.schemas.names := by
  rw [Checks.mappingTargetExists, Pointer.schema, Text.dropOpening?_append]
  exact isSome_schema?

/-- The pointer to a component schema is understood: a node that holds it refers
to the schema and is not reported, and a mapping to it is accepted. -/
structure UnderstandsPointer (d : Document) (name : String) : Prop where
  target : ∀ node : Schema, node.reference = some (Pointer.schema name) →
    node.referenceTarget = some name
  edge : ∀ source body node, (source, body) ∈ d.schemas → body.Reaches node →
    node.reference = some (Pointer.schema name) → d.references.RefersTo source name
  resolved : ∀ visit : Visit, visit.schema.reference = some (Pointer.schema name) →
    Checks.visitFindings d visit = []
  mapping : Checks.mappingTargetExists d (Pointer.schema name) = true

/-- The pointer to a component schema is understood exactly when the name of the
schema needs no escapes. -/
theorem understandsPointer_iff (declared : name ∈ d.schemas.names) :
    d.UnderstandsPointer name ↔ Plain name := by
  rw [← Pointer.escape_eq_self_iff]
  constructor
  · intro understands
    have target := understands.target { reference := some (Pointer.schema name) } rfl
    rw [Schema.referenceTarget_of_reference rfl] at target
    exact Option.some.inj target
  · intro same
    constructor
    · intro node refers
      rw [Schema.referenceTarget_of_reference refers, same]
    · intro source body node entry reaches refers
      exact same ▸ refersTo_of_reference entry reaches refers
    · intro visit refers
      rw [visitFindings_eq_nil_iff refers, same]
      exact declared
    · rw [mappingTargetExists_schema, same]
      exact declared

/-- A document understands its own pointers to components exactly as far as their
names need no escapes. -/
theorem own_pointers (d : Document) (distinct : d.allComponents.Distinct) :
    (∀ name ∈ d.schemas.names, d.UnderstandsPointer name ↔ Plain name) ∧
    RefOr.PlainPointersOnly "parameters" d.allComponents.parameters ∧
    RefOr.PlainPointersOnly "requestBodies" d.allComponents.requestBodies ∧
    RefOr.PlainPointersOnly "responses" d.allComponents.responses ∧
    RefOr.PlainPointersOnly "securitySchemes" d.allComponents.securitySchemes :=
  ⟨fun _ => understandsPointer_iff, RefOr.plainPointersOnly _ distinct.parameters.names,
    RefOr.plainPointersOnly _ distinct.requestBodies.names,
    RefOr.plainPointersOnly _ distinct.responses.names,
    RefOr.plainPointersOnly _ distinct.securitySchemes⟩

/-- A schema and a response whose names hold a slash, and a schema that refers to
the first one. -/
def slashedNames : Document where
  components := some
    { schemas := [("a/b", {}), ("User", { reference := some (Pointer.schema "a/b") })]
      responses := [("a/b", .item {})] }

/-- The pointers to the slashed names are not understood, the other one is. -/
theorem own_pointers_slashedNames :
    slashedNames.allComponents.Distinct ∧
      ¬slashedNames.UnderstandsPointer "a/b" ∧ slashedNames.UnderstandsPointer "User" ∧
      slashedNames.resolveResponse (.ref "#/components/responses/a~1b") = none := by
  have distinct : slashedNames.allComponents.Distinct := by
    refine ⟨by decide, ⟨by decide, nofun⟩, ⟨by decide, nofun⟩, ⟨by decide, ?_⟩, by decide⟩
    intro name part entry r given
    obtain ⟨-, rfl⟩ := Prod.mk.inj (List.mem_singleton.mp entry)
    cases given
    exact List.nodup_nil
  obtain ⟨understands, -, -, responses, -⟩ := own_pointers slashedNames distinct
  refine ⟨distinct, ?_, ?_, ?_⟩
  · rw [understands "a/b" (by decide)]
    decide
  · rw [understands "User" (by decide)]
    decide
  · exact responses.escaped "a/b" {} (List.mem_singleton.mpr rfl) (by decide) (by decide)

end Document

end ApiReview
