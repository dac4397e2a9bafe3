import ApiReview.Proofs.Checks.Runs
import ApiReview.Proofs.Document.InlineListing
import ApiReview.Proofs.Document.OwnPointers
import ApiReview.Proofs.Review.CircularDependencies
import ApiReview.Proofs.Review.WalkOrder

/-!
# References to undeclared schemas

The check of schemas reports every place at which a schema refers to a component
schema that is not declared, once for each place.  The places are those below the
component schemas and below the schemas given in place, as far as no reference stands
on the way.  A place is told apart from all others by the pointer to the schema from
which the way starts, and by the way.
-/

namespace ApiReview

/-- The findings about references that lead nowhere. -/
def unresolvedReferences (findings : List Finding) : List Finding :=
  findings.filter (·.rule == .unresolvedReference)

/-- Where a walk of the check of schemas starts. -/
inductive WalkRoot where
  | component (name : String) (body : Schema)
  | inPlace (pointer : String) (schema : Schema)

namespace WalkRoot

def pointer : WalkRoot → String
  | .component name _ => Pointer.schema name
  | .inPlace pointer _ => pointer

def schema : WalkRoot → Schema
  | .component _ body => body
  | .inPlace _ schema => schema

/-- Findings below a component schema are about it. -/
def attach : WalkRoot → Finding → Finding
  | .component name _, finding => finding.about name (Pointer.schema name) "schema"
  | .inPlace _ _, finding => finding

end WalkRoot

/-- The component schemas and the schemas given in place. -/
def Document.walkRoots (d : Document) : List WalkRoot :=
  d.schemas.map (fun (name, body) => .component name body) ++
    d.inlineSchemas.map fun (pointer, schema) => .inPlace pointer schema

/-- A place below a root, with the component schema that is referred to there. -/
structure ReferenceSite where
  root : WalkRoot
  way : List Nat
  place : Place
  target : String

namespace ReferenceSite

structure Unresolved (d : Document) (site : ReferenceSite) : Prop where
  root : site.root ∈ d.walkRoots
  leads : site.root.schema.place? site.way = some site.place
  refers : site.place.node.componentTarget? = some site.target
  undeclared : site.target ∉ d.schemas.names

def report (site : ReferenceSite) : Finding :=
  site.root.attach (.of .unresolvedReference
    ("Reference to undeclared schema '" ++ site.target ++ "'")
    (site.root.pointer ++ String.join (site.place.slots.map Slot.text)))

end ReferenceSite

theorem unresolvedReferences_append (first second : List Finding) :
    unresolvedReferences (first ++ second) =
      unresolvedReferences first ++ unresolvedReferences second :=
  List.filter_append ..

theorem unresolvedReferences_flatMap {α : Type} (items : List α) (list : α → List Finding) :
    unresolvedReferences (items.flatMap list) =
      items.flatMap fun item => unresolvedReferences (list item) :=
  List.filter_flatMap

namespace Checks

variable {d : Document} {name : String} {visit : Visit} {visits : List Visit}

theorem unresolvedReferences_visitFindings :
    unresolvedReferences (visitFindings d visit) = referenceFindings d visit := by
  unfold unresolvedReferences visitFindings
  by_cases refers : visit.schema.isReference = true
  · rw [if_pos refers, fromRules_referenceFindings.filter_eq_self]
  · have noReference : visit.schema.reference = none := by
      simpa [Schema.isReference] using refers
    have noTarget : visit.schema.componentTarget? = none := by
      rw [Schema.componentTarget?, noReference, Option.bind_none]
    rw [if_neg refers, fromRules_nodeFindings.filter_eq_nil (by decide), referenceFindings,
      noTarget]

theorem unresolvedReferences_componentWalkFindings (reported : Bool) :
    unresolvedReferences (componentWalkFindings d name reported visits) =
      visits.flatMap (referenceFindings d) := by
  induction visits generalizing reported with
  | nil => rfl
  | cons visit rest ih =>
      have toItself (condition : Bool) :
          unresolvedReferences (if condition then [selfReference name visit.path] else []) = [] := by
        cases condition <;> rfl
      simp only [componentWalkFindings, unresolvedReferences_append, toItself, ih,
        unresolvedReferences_visitFindings, List.nil_append, List.flatMap_cons]

/-- Every root is walked once, and only references to undeclared schemas are reported. -/
theorem unresolvedReferences_schemasFindings (d : Document) :
    unresolvedReferences (schemasFindings d) =
      d.walkRoots.flatMap fun root =>
        ((root.schema.walk root.pointer []).flatMap (referenceFindings d)).map root.attach := by
  have components (name : String) (body : Schema) :
      unresolvedReferences (componentSchemaFindings d name body) =
        ((body.walk (Pointer.schema name) []).flatMap (referenceFindings d)).map
          (WalkRoot.component name body).attach := by
    calc unresolvedReferences (componentSchemaFindings d name body)
        = (unresolvedReferences (componentWalkFindings d name false
            (body.walk (Pointer.schema name) []))).map (WalkRoot.component name body).attach :=
          filter_rule_map_about ..
      _ = _ := by rw [unresolvedReferences_componentWalkFindings]
  have inPlace (pointer : String) (schema : Schema) :
      unresolvedReferences (inlineSchemaFindings d (pointer, schema)) =
        ((schema.walk pointer []).flatMap (referenceFindings d)).map
          (WalkRoot.inPlace pointer schema).attach := by
    unfold inlineSchemaFindings
    rw [unresolvedReferences_flatMap]
    simp only [unresolvedReferences_visitFindings]
    exact (List.map_id _).symm
  unfold schemasFindings Document.walkRoots
  rw [unresolvedReferences_append, unresolvedReferences_flatMap, unresolvedReferences_flatMap,
    List.flatMap_append, List.flatMap_map, List.flatMap_map]
  simp only [components, inPlace]
  rfl

end Checks

namespace Document

variable {d : Document}

/-- The target of a reference to a component schema that is not declared. -/
def undeclaredTarget? (d : Document) (node : Schema) : Option String :=
  node.componentTarget?.bind fun target =>
    if (d.schema? target).isSome then none else some target

theorem undeclaredTarget?_eq_some_iff {node : Schema} {target : String} :
    d.undeclaredTarget? node = some target ↔
      node.componentTarget? = some target ∧ target ∉ d.schemas.names := by
  unfold undeclaredTarget?
  rw [Option.bind_eq_some_iff, ← isSome_schema?]
  constructor
  · rintro ⟨other, refers, undeclared⟩
    split_ifs at undeclared with declared
    cases undeclared
    exact ⟨refers, declared⟩
  · rintro ⟨refers, undeclared⟩
    exact ⟨target, refers, if_neg undeclared⟩

theorem referenceFindings_eq (visit : Visit) :
    Checks.referenceFindings d visit =
      (d.undeclaredTarget? visit.schema).toList.map fun target =>
        .of .unresolvedReference ("Reference to undeclared schema '" ++ target ++ "'")
          visit.path := by
  unfold Checks.referenceFindings undeclaredTarget?
  cases visit.schema.componentTarget? with
  | none => rfl
  | some target =>
      rw [Option.bind_some]
      by_cases declared : (d.schema? target).isSome = true
      · rw [if_pos declared]
        exact if_pos declared
      · rw [if_neg declared]
        exact if_neg declared

theorem Holds.ne_schemas {keys : List String} {schema : Schema} (held : d.Holds keys schema)
    (name : String) : keys ≠ ["components", "schemas", name] := by
  intro equal
  cases held with
  | path entry inside => simp at equal
  | component inside => cases inside <;> simp at equal

/-- The pointers to the roots are different: a schema given in place does not stand
among the component schemas. -/
theorem nodup_pointers_walkRoots (distinct : d.Distinct) :
    (d.walkRoots.map WalkRoot.pointer).Nodup := by
  have listed := d.pointsTo_inlineSchemas distinct
  have pointers : d.walkRoots.map WalkRoot.pointer =
      d.schemas.names.map Pointer.schema ++ d.inlineSchemas.map Prod.fst := by
    simp [walkRoots, Table.names, Function.comp_def, WalkRoot.pointer]
  rw [pointers, List.nodup_append]
  refine ⟨?_, listed.nodup, ?_⟩
  · refine List.Nodup.map (fun one two same => ?_) distinct.allComponents.schemas
    rw [Pointer.schema_eq, Pointer.schema_eq, Pointer.ofKeys_inj] at same
    simpa using same
  · intro own ownMember other otherMember same
    obtain ⟨name, -, rfl⟩ := List.mem_map.mp ownMember
    obtain ⟨keys, schema, held, equal⟩ := listed.exists_of_mem_pointers otherMember
    rw [← same, Pointer.schema_eq, Pointer.ofKeys_inj, List.nil_append] at equal
    exact held.ne_schemas name equal.symm

/-- The sites among the places below a root. -/
def sitesBelow (d : Document) (root : WalkRoot) (listed : List (List Nat × Place)) :
    List ReferenceSite :=
  listed.flatMap fun (way, place) =>
    (d.undeclaredTarget? place.node).toList.map (.mk root way place)

section SitesBelow

variable {root : WalkRoot} {listed : List (List Nat × Place)}

theorem mem_sitesBelow {site : ReferenceSite} :
    site ∈ d.sitesBelow root listed ↔ site.root = root ∧ (site.way, site.place) ∈ listed ∧
      d.undeclaredTarget? site.place.node = some site.target := by
  unfold sitesBelow
  rw [List.mem_flatMap]
  constructor
  · rintro ⟨⟨way, place⟩, member, found⟩
    obtain ⟨target, undeclared, rfl⟩ := List.mem_map.mp found
    exact ⟨rfl, member, Option.mem_toList.mp undeclared⟩
  · rintro ⟨rfl, member, undeclared⟩
    exact ⟨_, member, List.mem_map.mpr ⟨site.target, Option.mem_toList.mpr undeclared, rfl⟩⟩

theorem report_sitesBelow (lists : Schema.ListsPlaces [] [] none root.schema listed) :
    ((root.schema.walk root.pointer []).flatMap (Checks.referenceFindings d)).map root.attach =
      (d.sitesBelow root listed).map ReferenceSite.report := by
  unfold sitesBelow
  rw [lists.walk_eq, List.flatMap_map, List.map_flatMap, List.map_flatMap]
  refine List.flatMap_congr ?_
  rintro ⟨way, place⟩ -
  rw [referenceFindings_eq, List.map_map, List.map_map]
  rfl

theorem nodup_ways_sitesBelow (lists : Schema.ListsPlaces [] [] none root.schema listed) :
    ((d.sitesBelow root listed).map ReferenceSite.way).Nodup := by
  have ways : (d.sitesBelow root listed).map ReferenceSite.way =
      listed.flatMap fun entry => (d.undeclaredTarget? entry.2.node).toList.map fun _ => entry.1 := by
    unfold sitesBelow
    rw [List.map_flatMap]
    refine List.flatMap_congr fun entry _ => ?_
    rw [List.map_map]
    rfl
  rw [ways, List.nodup_flatMap]
  constructor
  · rintro ⟨way, place⟩ -
    cases d.undeclaredTarget? place.node <;> simp
  · refine lists.ascending.imp ?_
    rintro ⟨way, place⟩ ⟨way', place'⟩ before other first second
    obtain ⟨-, -, rfl⟩ := List.mem_map.mp first
    obtain ⟨-, -, rfl⟩ := List.mem_map.mp second
    exact List.lex_irrefl Nat.lt_irrefl _ before

end SitesBelow

/-- The check of schemas reports every place once at which a schema refers to a component
schema that is not declared: the place is found from a component schema or from a schema
given in place, without a reference on the way to it. -/
theorem unresolved_sites (d : Document) (distinct : d.Distinct) (s : Session) :
    ∃ sites : List ReferenceSite,
      unresolvedReferences (Checks.schemas.added d s) = sites.map ReferenceSite.report ∧
      (∀ site, site ∈ sites ↔ site.Unresolved d) ∧
      (sites.map fun site => (site.root.pointer, site.way)).Nodup := by
  have each : ∀ root : WalkRoot, ∃ listed,
      Schema.ListsPlaces [] [] none root.schema listed := fun root =>
    Schema.exists_listsPlaces [] [] none root.schema
  choose places lists using each
  refine ⟨d.walkRoots.flatMap fun root => d.sitesBelow root (places root), ?_, ?_, ?_⟩
  · rw [Check.added_schemas, Checks.unresolvedReferences_schemasFindings, List.map_flatMap]
    exact List.flatMap_congr fun root _ => report_sitesBelow (lists root)
  · intro site
    rw [List.mem_flatMap]
    constructor
    · rintro ⟨root, declared, member⟩
      obtain ⟨rfl, listed, undeclared⟩ := mem_sitesBelow.mp member
      obtain ⟨refers, absent⟩ := undeclaredTarget?_eq_some_iff.mp undeclared
      exact ⟨declared, (lists site.root).mem_iff.mp listed, refers, absent⟩
    · rintro ⟨declared, leads, refers, absent⟩
      refine ⟨site.root, declared, mem_sitesBelow.mpr ⟨rfl, ?_, ?_⟩⟩
      · exact (lists site.root).mem_iff.mpr leads
      · exact undeclaredTarget?_eq_some_iff.mpr ⟨refers, absent⟩
  · refine List.pairwise_map.mpr (List.pairwise_flatMap.mpr ⟨fun root _ => ?_, ?_⟩)
    · have ways := List.pairwise_map.mp (nodup_ways_sitesBelow (d := d) (lists root))
      exact ways.imp fun differ same => differ (Prod.mk.inj same).2
    · have pointers := List.pairwise_map.mp (nodup_pointers_walkRoots distinct)
      refine pointers.imp fun differ one oneMember two twoMember same => ?_
      rw [(mem_sitesBelow.mp oneMember).1, (mem_sitesBelow.mp twoMember).1] at same
      exact differ (Prod.mk.inj same).1

/-- References to one undeclared schema from two properties and from a parameter, beside
references to a declared schema and out of the component schemas. -/
def strayReferences : Document where
  components := some
    { schemas :=
        [("Order", { properties := [("item", referenceTo "Item"), ("spare", referenceTo "Item"),
            ("next", referenceTo "Order"), ("other", { reference := some "other.yaml#/Item" })] })]
      parameters := [("a/b", .item { schema := some { items := some (referenceTo "Item") } })] }

theorem unresolved_sites_stray :
    strayReferences.Distinct ∧
      (unresolvedReferences (Checks.schemas.added strayReferences {})).map Finding.location =
        ["#/components/schemas/Order.item", "#/components/schemas/Order.spare",
          "#/components/parameters/a~1b/schema.items"] ∧
      ∃ sites : List ReferenceSite,
        sites.map (fun site => site.report.componentName) = [some "Order", some "Order", none] ∧
        (∀ site, site ∈ sites ↔ site.Unresolved strayReferences) ∧
        (sites.map fun site => (site.root.pointer, site.way)).Nodup := by
  have distinct : strayReferences.Distinct := by
    refine ⟨by decide, by simp [strayReferences], ?_⟩
    intro c given
    cases given
    refine ⟨by decide, ⟨by decide, ?_⟩, ⟨by decide, nofun⟩, ⟨by decide, nofun⟩, by decide⟩
    intro name part entry p item
    obtain ⟨-, rfl⟩ := Prod.mk.inj (List.mem_singleton.mp entry)
    cases item
    exact List.nodup_nil
  obtain ⟨sites, reports, complete, different⟩ := unresolved_sites strayReferences distinct {}
  rw [Check.added_schemas, Checks.unresolvedReferences_schemasFindings] at reports ⊢
  refine ⟨distinct, by decide, sites, ?_, complete, different⟩
  have names := congrArg (List.map Finding.componentName) reports
  rw [List.map_map] at names
  exact names.symm.trans (by decide)

/-- A component schema with a `$ref` beside properties, one of which refers to a schema that
is not declared. -/
def strayBeside : Document where
  components := some
    { schemas := [("A", { referenceTo "C" with properties := [("b", referenceTo "B")] }), ("C", {})] }

/-- What stands beside a `$ref` is not looked into, so not every reference to an undeclared
schema is reported. -/
theorem stray_beside_unreported :
    strayBeside.Distinct ∧ strayBeside.Mentions "A" "B" ∧ "B" ∉ strayBeside.schemas.names ∧
      unresolvedReferences (Checks.schemas.added strayBeside {}) = [] := by
  refine ⟨⟨by decide, by simp [strayBeside], ?_⟩, ?_, by decide, ?_⟩
  · intro c given
    cases given
    exact ⟨by decide, ⟨by decide, nofun⟩, ⟨by decide, nofun⟩, ⟨by decide, nofun⟩, by decide⟩
  · exact ⟨{ referenceTo "C" with properties := [("b", referenceTo "B")] }, referenceTo "B",
      by simp [strayBeside, schemas, allComponents],
      .single (.property (List.mem_singleton.mpr rfl)), by decide⟩
  · rw [Check.added_schemas, Checks.unresolvedReferences_schemasFindings]
    decide

end Document

end ApiReview
