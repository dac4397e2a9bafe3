import ApiReview.Proofs.Checks.Runs
import ApiReview.Proofs.Checks.SelfReferences
import ApiReview.Proofs.Review.CircularDependencies
import ApiReview.Proofs.Review.WalkOrder

/-!
# The place at which a schema refers to itself

A component schema that refers to itself is reported once, at the first such reference
in the order of the walk.  What the other component schemas and the schemas given in
place refer to does not matter.
-/

namespace ApiReview

/-- A way leads to a reference to a component schema, and no smaller way does. -/
structure Schema.FirstReference (body : Schema) (name : String) (way : List Nat)
    (place : Place) : Prop where
  leads : body.place? way = some place
  refers : place.node.componentTarget? = some name
  earliest : ∀ other otherPlace, body.place? other = some otherPlace →
    otherPlace.node.componentTarget? = some name → other = way ∨ List.Lex (· < ·) way other

/-- The findings that one component schema refers to itself. -/
def selfReferencesOf (name : String) (findings : List Finding) : List Finding :=
  (selfReferences findings).filter (·.componentName == some name)

/-- The finding that a component schema refers to itself at a place in its body. -/
def selfReport (name : String) (place : Place) : Finding :=
  let path := Pointer.schema name ++ String.join (place.slots.map Slot.text)
  (Finding.of .selfReferencingSchema ("Schema '" ++ name ++ "' references itself at " ++ path)
    path).about name (Pointer.schema name) "schema"

namespace Checks

variable {d : Document} {name : String} {body : Schema} {listed : List (List Nat × Place)}

theorem componentName_selfReferences {finding : Finding}
    (member : finding ∈ selfReferences (componentSchemaFindings d name body)) :
    finding.componentName = some name := by
  rw [selfReferences_componentSchemaFindings] at member
  obtain ⟨visit, -, rfl⟩ := List.mem_map.mp member
  rfl

theorem selfReferencesOf_schemasFindings (distinct : d.schemas.Distinct)
    (declared : (name, body) ∈ d.schemas) :
    selfReferencesOf name (schemasFindings d) =
      selfReferences (componentSchemaFindings d name body) := by
  rw [selfReferencesOf, selfReferences_schemasFindings]
  exact distinct.filter_flatMap declared fun entry _ finding member =>
    componentName_selfReferences member

theorem selfVisit?_walk (lists : Schema.ListsPlaces [] [] none body listed) (start : String) :
    selfVisit? name (body.walk start []) =
      (listed.find? fun entry => entry.2.node.componentTarget? == some name).map fun entry =>
        entry.2.visit start := by
  rw [selfVisit?, lists.walk_eq, List.find?_map]
  rfl

/-- The places are listed in ascending order of their ways, so the first one that is found
has the smallest way. -/
theorem firstReference_of_find? (lists : Schema.ListsPlaces [] [] none body listed)
    {way : List Nat} {place : Place}
    (found : listed.find? (fun entry => entry.2.node.componentTarget? == some name) =
      some (way, place)) : body.FirstReference name way place := by
  have ascending := lists.ascending
  obtain ⟨refers, before, after, split, others⟩ := List.find?_eq_some_iff_append.mp found
  refine ⟨lists.mem_iff.mp (List.mem_of_find?_eq_some found), eq_of_beq refers, ?_⟩
  intro other otherPlace leads otherRefers
  have member := lists.mem_iff.mpr leads
  rw [split] at member ascending
  rcases List.mem_append.mp member with earlier | later
  · simpa [otherRefers] using others _ earlier
  · rcases List.mem_cons.mp later with same | behind
    · exact .inl (Prod.mk.inj same).1
    · have fromFirst := (List.pairwise_append.mp ascending).2.1
      exact .inr ((List.pairwise_cons.mp fromFirst).1 _ behind)

theorem exists_firstReference_report
    (refers : ∃ node, body.Reaches node ∧ node.componentTarget? = some name) :
    ∃ way place, body.FirstReference name way place ∧
      selfReferences (componentSchemaFindings d name body) = [selfReport name place] := by
  obtain ⟨listed, lists⟩ := Schema.exists_listsPlaces [] [] none body
  have visited : (selfVisit? name (body.walk (Pointer.schema name) [])).isSome = true :=
    isSome_selfVisit?_walk.mpr refers
  rw [selfReferences_componentSchemaFindings]
  rw [selfVisit?_walk lists] at visited ⊢
  cases found : listed.find? fun entry => entry.2.node.componentTarget? == some name with
  | none =>
      rw [found] at visited
      cases visited
  | some entry => exact ⟨entry.1, entry.2, firstReference_of_find? lists found, rfl⟩

theorem selfReferences_eq_nil_of_silent
    (silent : ¬∃ node, body.Reaches node ∧ node.componentTarget? = some name) :
    selfReferences (componentSchemaFindings d name body) = [] := by
  have unvisited : selfVisit? name (body.walk (Pointer.schema name) []) = none :=
    Option.not_isSome_iff_eq_none.mp (mt isSome_selfVisit?_walk.mp silent)
  rw [selfReferences_componentSchemaFindings, unvisited]
  rfl

end Checks

namespace Document

variable {d : Document}

/-- A component schema from whose body a reference to it is reached is reported once, at the
first of these references.  No other component schema is reported, and nothing is reported
that is not about a component schema. -/
theorem self_reference_once (d : Document) (distinct : d.schemas.Distinct) (s : Session) :
    (∀ name body, (name, body) ∈ d.schemas →
      ((∃ node, body.Reaches node ∧ node.componentTarget? = some name) →
        ∃ way place, body.FirstReference name way place ∧
          selfReferencesOf name (Checks.schemas.added d s) = [selfReport name place]) ∧
      ((¬∃ node, body.Reaches node ∧ node.componentTarget? = some name) →
        selfReferencesOf name (Checks.schemas.added d s) = [])) ∧
    ∀ finding ∈ selfReferences (Checks.schemas.added d s),
      ∃ name ∈ d.schemas.names, finding.componentName = some name := by
  rw [Check.added_schemas]
  constructor
  · intro name body declared
    rw [Checks.selfReferencesOf_schemasFindings distinct declared]
    exact ⟨Checks.exists_firstReference_report, Checks.selfReferences_eq_nil_of_silent⟩
  · intro finding reported
    rw [Checks.selfReferences_schemasFindings] at reported
    obtain ⟨⟨name, body⟩, declared, member⟩ := List.mem_flatMap.mp reported
    exact ⟨name, Table.mem_names declared, Checks.componentName_selfReferences member⟩

/-- A schema with two references to itself, behind one to another schema. -/
def categorySchema : Schema where
  properties := [("owner", referenceTo "Owner"), ("parent", referenceTo "Category")]
  items := some (referenceTo "Category")

/-- The other schema refers back, and a parameter refers to it. -/
def twiceReferring : Document where
  components := some
    { schemas := [("Category", categorySchema), ("Owner", { anyOf := [referenceTo "Category"] })]
      parameters := [("owner", .item { schema := some (referenceTo "Owner") })] }

theorem self_reference_once_category :
    twiceReferring.schemas.Distinct ∧
      (∃ way place, categorySchema.FirstReference "Category" way place ∧
        selfReferencesOf "Category" (Checks.schemas.added twiceReferring {}) =
          [selfReport "Category" place]) ∧
      selfReferencesOf "Owner" (Checks.schemas.added twiceReferring {}) = [] := by
  have distinct : twiceReferring.schemas.Distinct := by decide
  obtain ⟨each, -⟩ := self_reference_once twiceReferring distinct {}
  refine ⟨distinct, ?_, ?_⟩
  · have declared : ("Category", categorySchema) ∈ twiceReferring.schemas := by
      simp [twiceReferring, schemas, allComponents]
    have parent : ("parent", referenceTo "Category") ∈ categorySchema.properties := by
      simp [categorySchema]
    exact (each "Category" categorySchema declared).1
      ⟨referenceTo "Category", .single ⟨by decide, .property parent⟩, by decide⟩
  · have declared : ("Owner", { anyOf := [referenceTo "Category"] }) ∈ twiceReferring.schemas := by
      simp [twiceReferring, schemas, allComponents]
    refine (each "Owner" _ declared).2 ?_
    have unvisited : ¬(Checks.selfVisit? "Owner"
        (Schema.walk { anyOf := [referenceTo "Category"] } "" [])).isSome = true := by decide
    exact mt Checks.isSome_selfVisit?_walk.mpr unvisited

/-- A component schema with a `$ref` beside properties, one of which refers to the schema
itself. -/
def selfBeside : Document where
  components := some
    { schemas := [("A", { referenceTo "C" with properties := [("a", referenceTo "A")] }), ("C", {})] }

/-- What stands beside a `$ref` is not looked into, so not every schema that holds a reference
to itself is reported. -/
theorem self_beside_unreported :
    selfBeside.schemas.Distinct ∧ selfBeside.Mentions "A" "A" ∧
      selfReferences (Checks.schemas.added selfBeside {}) = [] := by
  refine ⟨by decide, ?_, ?_⟩
  · exact ⟨{ referenceTo "C" with properties := [("a", referenceTo "A")] }, referenceTo "A",
      by simp [selfBeside, schemas, allComponents],
      .single (.property (List.mem_singleton.mpr rfl)), by decide⟩
  · rw [Check.added_schemas, Checks.selfReferences_schemasFindings]
    simp only [Checks.selfReferences_componentSchemaFindings]
    decide

end Document

end ApiReview
