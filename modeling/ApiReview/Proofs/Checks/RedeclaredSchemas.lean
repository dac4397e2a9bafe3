import ApiReview.Proofs.Checks.Runs

/-!
# Schemas seen from other schemas

The rules for one schema look up other component schemas: to see whether they are
declared, which names they require, whether they are empty and whether they are
objects.  Nothing else of another schema matters.  So when one component schema gets
another body that is the same in these respects, the findings about everything else
stay as they are.
-/

namespace ApiReview

/-- Two schemas are the same in what a rule for another schema can ask of them. -/
structure Schema.Resembles (one other : Schema) : Prop where
  required : ∀ name, name ∈ one.required ↔ name ∈ other.required
  isEmpty : one.isEmpty = other.isEmpty
  typed : one.type.isSome = other.type.isSome
  isObject : one.isType "object" = other.isType "object"

/-- Two documents that differ in the body of the component schema of one name, which is
declared in the same place in both. -/
inductive Document.DifferIn (name : String) (body body' : Schema) : Document → Document → Prop where
  | redeclared (d : Document) (c : Components) (before after : Table Schema) :
      DifferIn name body body'
        { d with components := some { c with schemas := before ++ (name, body) :: after } }
        { d with components := some { c with schemas := before ++ (name, body') :: after } }

/-- Under every name two documents declare schemas that resemble each other, or none. -/
def Document.Resembles (d e : Document) : Prop :=
  ∀ name, Option.Rel Schema.Resembles (d.schema? name) (e.schema? name)

theorem Schema.Resembles.refl (s : Schema) : s.Resembles s where
  required _ := Iff.rfl
  isEmpty := rfl
  typed := rfl
  isObject := rfl

theorem Schema.Resembles.rel_refl (s : Option Schema) : Option.Rel Schema.Resembles s s := by
  cases s with
  | none => exact .none
  | some s => exact .some (.refl s)

section DifferIn

variable {d e : Document} {name : String} {body body' : Schema}

theorem Table.get?_redeclared (same : body.Resembles body') (before after : Table Schema)
    (target : String) :
    Option.Rel Schema.Resembles (Table.get? (before ++ (name, body) :: after) target)
      (Table.get? (before ++ (name, body') :: after) target) := by
  induction before with
  | nil =>
      by_cases found : target = name
      · subst found
        simpa [Table.get?] using Option.Rel.some same
      · have differs : (target == name) = false := by simpa using found
        simpa [Table.get?, List.lookup_cons, differs] using Schema.Resembles.rel_refl _
  | cons entry rest ih =>
      obtain ⟨other, schema⟩ := entry
      by_cases found : target = other
      · subst found
        simpa [Table.get?] using Schema.Resembles.rel_refl (some schema)
      · have differs : (target == other) = false := by simpa using found
        simpa [Table.get?, List.lookup_cons, differs] using ih

namespace Document.DifferIn

theorem resembles (differ : DifferIn name body body' d e) (same : body.Resembles body') :
    d.Resembles e := by
  cases differ with
  | redeclared d c before after => exact Table.get?_redeclared same before after

theorem exists_schemas (differ : DifferIn name body body' d e) :
    ∃ before after, d.schemas = before ++ (name, body) :: after ∧
      e.schemas = before ++ (name, body') :: after := by
  cases differ with
  | redeclared d c before after => exact ⟨before, after, rfl, rfl⟩

theorem inlineSchemas_eq (differ : DifferIn name body body' d e) :
    d.inlineSchemas = e.inlineSchemas := by
  cases differ
  rfl

end Document.DifferIn

end DifferIn

namespace Checks

variable {d e : Document} {s : Schema} {path : String} {visit : Visit}

section Resembling

variable (same : d.Resembles e)
include same

theorem isSome_schema?_congr (target : String) :
    (d.schema? target).isSome = (e.schema? target).isSome := by
  have declared := same target
  generalize d.schema? target = one, e.schema? target = other at declared ⊢
  cases declared <;> rfl

theorem referenceFindings_congr : referenceFindings d visit = referenceFindings e visit := by
  unfold referenceFindings
  simp only [isSome_schema?_congr same]

theorem mappingTargetExists_congr : mappingTargetExists d = mappingTargetExists e := by
  funext target
  unfold mappingTargetExists
  simp only [isSome_schema?_congr same]

theorem mem_requiredByMember_congr {property : String} :
    property ∈ requiredByMember d s ↔ property ∈ requiredByMember e s := by
  unfold requiredByMember
  cases s.componentTarget? with
  | none => exact Iff.rfl
  | some target =>
      have declared := same target
      dsimp only
      generalize d.schema? target = one, e.schema? target = other at declared ⊢
      cases declared with
      | none => exact Iff.rfl
      | some resembles => exact resembles.required property

theorem contains_requiredNames_congr (property : String) :
    (requiredNames d s).contains property = (requiredNames e s).contains property := by
  rw [Bool.eq_iff_iff]
  simp only [requiredNames, List.contains_iff_mem, List.mem_append, List.mem_flatMap,
    mem_requiredByMember_congr same]

theorem discriminatorFindings_congr :
    discriminatorFindings d s path = discriminatorFindings e s path := by
  unfold discriminatorFindings declaredDiscriminatorFindings
  simp only [contains_requiredNames_congr same, mappingTargetExists_congr same]

theorem lookedUp?_congr : Option.Rel Schema.Resembles (lookedUp? d s) (lookedUp? e s) := by
  unfold lookedUp?
  cases s.componentTarget? with
  | none => exact Schema.Resembles.rel_refl _
  | some target =>
      by_cases refers : s.isReference = true
      · simpa only [if_pos refers, Option.bind_some] using same target
      · simpa only [if_neg refers] using Schema.Resembles.rel_refl (some s)

theorem allOfFindings_congr : allOfFindings d s path = allOfFindings e s path := by
  refine List.flatMap_congr ?_
  rintro ⟨member, index⟩ -
  have found := lookedUp?_congr (s := member) same
  dsimp only
  generalize lookedUp? d member = one, lookedUp? e member = other at found ⊢
  cases found with
  | none => rfl
  | some resembles =>
      dsimp only
      rw [resembles.isEmpty, resembles.typed, resembles.isObject]

theorem visitFindings_congr : visitFindings d visit = visitFindings e visit := by
  unfold visitFindings nodeFindings
  dsimp only
  rw [referenceFindings_congr same, discriminatorFindings_congr same, allOfFindings_congr same]

theorem componentWalkFindings_congr {name : String} {reported : Bool} {visits : List Visit} :
    componentWalkFindings d name reported visits =
      componentWalkFindings e name reported visits := by
  induction visits generalizing reported with
  | nil => rfl
  | cons visit rest ih =>
      unfold componentWalkFindings
      dsimp only
      rw [visitFindings_congr same, ih]

theorem componentSchemaFindings_congr (name : String) (body : Schema) :
    componentSchemaFindings d name body = componentSchemaFindings e name body := by
  unfold componentSchemaFindings
  dsimp only
  rw [componentWalkFindings_congr same]

theorem inlineSchemaFindings_congr : inlineSchemaFindings d = inlineSchemaFindings e := by
  funext located
  exact List.flatMap_congr fun _ _ => visitFindings_congr same

end Resembling

/-- The findings that are not about the component schema of the given name. -/
def findingsBeside (name : String) (findings : List Finding) : List Finding :=
  findings.filter (·.componentName != some name)

theorem findingsBeside_componentSchemaFindings (name : String) (body : Schema) :
    findingsBeside name (componentSchemaFindings d name body) = [] := by
  refine List.filter_eq_nil_iff.mpr fun finding member => ?_
  obtain ⟨plain, -, rfl⟩ := List.mem_map.mp member
  simp [Finding.about]

theorem findingsBeside_schemasFindings {name : String} {body : Schema}
    {before after : Table Schema} (declared : d.schemas = before ++ (name, body) :: after) :
    findingsBeside name (schemasFindings d) =
      findingsBeside name
        (((before ++ after).flatMap fun (other, schema) =>
            componentSchemaFindings d other schema) ++
          d.inlineSchemas.flatMap (inlineSchemaFindings d)) := by
  have silent := findingsBeside_componentSchemaFindings (d := d) name body
  unfold findingsBeside at silent ⊢
  unfold schemasFindings
  rw [declared]
  simp only [List.flatMap_append, List.flatMap_cons, List.filter_append, silent, List.nil_append]

/-- When one component schema gets another body that resembles the first, the check of
schemas finds the same about every other component schema and about every schema given
in place. -/
theorem schemas_beside {name : String} {body body' : Schema}
    (differ : Document.DifferIn name body body' d e) (resembles : body.Resembles body')
    (s t : Session) :
    (∀ other schema, (other, schema) ∈ d.schemas → other ≠ name →
      (other, schema) ∈ e.schemas ∧
        componentSchemaFindings d other schema = componentSchemaFindings e other schema) ∧
    (∀ located ∈ d.inlineSchemas,
      located ∈ e.inlineSchemas ∧
        inlineSchemaFindings d located = inlineSchemaFindings e located) ∧
    findingsBeside name (schemas.added d s) = findingsBeside name (schemas.added e t) := by
  have same := differ.resembles resembles
  obtain ⟨before, after, declared, declared'⟩ := differ.exists_schemas
  refine ⟨?_, ?_, ?_⟩
  · intro other schema entry differs
    refine ⟨?_, componentSchemaFindings_congr same other schema⟩
    rw [declared, List.mem_append, List.mem_cons] at entry
    rw [declared', List.mem_append, List.mem_cons]
    rcases entry with early | here | late
    · exact .inl early
    · exact absurd (Prod.mk.inj here).1 differs
    · exact .inr (.inr late)
  · intro located listed
    exact ⟨differ.inlineSchemas_eq ▸ listed, congrFun (inlineSchemaFindings_congr same) located⟩
  · rw [Check.added_schemas, Check.added_schemas, findingsBeside_schemasFindings declared,
      findingsBeside_schemasFindings declared', differ.inlineSchemas_eq,
      inlineSchemaFindings_congr same]
    simp only [componentSchemaFindings_congr same]

/-- A document in which one component schema and a parameter build on another component
schema, through an `allOf`, a discriminator and its mapping. -/
def builtOn (base : Schema) : Document where
  components := some
    { schemas :=
        [("Base", base),
         ("Pet",
           { allOf := [{ reference := some "#/components/schemas/Base" }]
             discriminator := some { propertyName := some "kind", mapping := [("b", "Base")] } })]
      parameters :=
        [("filter", .item
          { name := some "filter"
            schema := some { allOf := [{ reference := some "#/components/schemas/Base" }] } })] }

def plainBase : Schema where
  type := some (.single "object")
  required := ["kind", "id"]

/-- It requires the same names, allows `null` too and refers to an undeclared schema. -/
def nullableBase : Schema where
  type := some (.several ["object", "null"])
  required := ["id", "kind", "id"]
  properties := [("id", { reference := some "#/components/schemas/Id" })]

theorem schemas_beside_builtOn :
    plainBase.Resembles nullableBase ∧
      (builtOn plainBase).DifferIn "Base" plainBase nullableBase (builtOn nullableBase) ∧
      findingsBeside "Base" (schemas.added (builtOn plainBase) {}) =
        findingsBeside "Base" (schemas.added (builtOn nullableBase) {}) := by
  have resembles : plainBase.Resembles nullableBase :=
    ⟨fun name => by simp [plainBase, nullableBase, or_comm], by decide, by decide, by decide⟩
  have differ : (builtOn plainBase).DifferIn "Base" plainBase nullableBase (builtOn nullableBase) :=
    .redeclared {} (builtOn plainBase).allComponents [] (builtOn plainBase).schemas.tail
  exact ⟨resembles, differ, (schemas_beside differ resembles {} {}).2.2⟩

end Checks

end ApiReview
