import ApiReview.Document.Loading
import ApiReview.Proofs.Document.Canonical

/-!
# Documents that were read

Every document that was read is canonical, with whatever the readers of schemas and
of security schemes bring about, and from whatever format it was read; in particular
the names in its tables are distinct, since a table that is read holds a name once.
-/

namespace ApiReview

open ApiReview.FromUntyped (Yields tracking)
open Untyped (Closed FromJson)

variable {α : Type} {inputs : Untyped → Prop} {property : α → Prop}
  {fine : Json.Value → Prop} {inner : Schema → Prop} {scheme : SecurityScheme → Prop}
  {depth : Nat}

theorem yields_firstShape {union : String} {shapes : List (FromUntyped α)}
    (all : ∀ shape ∈ shapes, Yields inputs property shape) :
    Yields inputs property (Untyped.firstShape union shapes) := by
  intro v a input ok
  unfold Untyped.firstShape at ok
  split at ok
  next found =>
    cases ok
    obtain ⟨shape, member, fits⟩ := List.exists_of_findSome?_eq_some found
    cases result : shape v with
    | error e =>
        rw [result] at fits
        cases fits
    | ok b =>
        rw [result] at fits
        cases fits
        exact all shape member v a input result
  next => cases ok

/-- The shapes of a part that is given by reference or in place. -/
theorem yields_refOr {read : FromUntyped α} (yields : Yields inputs property read) :
    Yields inputs (RefOr.InPlace property) (readRefOr read) := by
  refine yields_firstShape (List.forall_mem_cons.mpr ⟨?_, List.forall_mem_singleton.mpr ?_⟩)
  · intro v part input ok value given
    obtain ⟨reference, -, same⟩ := Except.map_eq_ok ok
    cases same.trans given
  · intro v part input ok value given
    obtain ⟨item, itemOk, same⟩ := Except.map_eq_ok ok
    cases same.trans given
    exact yields v value input itemOk

theorem yields_flows :
    Yields (FromJson fine) (fun flows => ∀ v, flows = some v → v.Distinct ∧ v ≠ .null)
      (FromUntyped.optional FromUntyped.json) := by
  rintro _ flows ⟨v, -, rfl⟩ ok w rfl
  by_cases present : v = .null
  · subst present
    cases ok
  · rw [FromUntyped.optional_of_ne_null present] at ok
    obtain ⟨flows, found, same⟩ := Except.map_eq_ok ok
    cases same
    exact ⟨FromUntyped.distinct_of_json _ _ found, FromUntyped.json_ne_null present found⟩

theorem yields_readSecurityScheme (closed : Closed (FromJson fine)) :
    Yields (FromJson fine) SecurityScheme.Canonical readSecurityScheme := by
  refine (tracking closed).record ⟨by simp⟩ ?_
  simp only [List.forall_mem_cons, List.not_mem_nil, false_imp_iff, implies_true, and_true]
  refine ⟨?_, ?_, ?flows⟩
  case flows => exact (tracking closed).keeps_map yields_flows fun _ _ given _ => ⟨given⟩
  all_goals exact (tracking closed).keeps_any fun _ _ start => { start with }

section Schemas

variable (closed : Closed inputs) (schemas : Yields inputs inner (schemaFromUntyped depth))
include closed schemas

theorem yields_readMediaType :
    Yields inputs (MediaType.Canonical inner) (readMediaType depth) := by
  refine (tracking closed).record ⟨by simp⟩ ?_
  simp only [List.forall_mem_cons, List.not_mem_nil, false_imp_iff, implies_true, and_true]
  exact (tracking closed).keeps_optional schemas fun _ _ given _ => ⟨given⟩

theorem yields_content :
    Yields inputs (Table.Canonical (MediaType.Canonical inner))
      (Format.table (readMediaType depth)) :=
  (yields_readMediaType closed schemas).table closed

theorem yields_readParameter :
    Yields inputs (Parameter.Canonical inner) (readParameter depth) := by
  refine (tracking closed).record ⟨by simp, .nil⟩ ?_
  simp only [List.forall_mem_cons, List.not_mem_nil, false_imp_iff, implies_true, and_true]
  refine ⟨?_, ?_, ?_, ?schema, ?content⟩
  case schema =>
    exact (tracking closed).keeps_optional schemas fun _ _ given start =>
      { start with schema := given }
  case content =>
    exact (tracking closed).keeps_defaulted (yields_content closed schemas) fun _ _ given start =>
      { start with content := given }
  all_goals exact (tracking closed).keeps_any fun _ _ start => { start with }

theorem yields_readRequestBody :
    Yields inputs (RequestBody.Canonical inner) (readRequestBody depth) := by
  refine (tracking closed).record ⟨.nil⟩ ?_
  simp only [List.forall_mem_cons, List.not_mem_nil, false_imp_iff, implies_true, and_true]
  refine ⟨?_, ?_, ?content⟩
  case content =>
    exact (tracking closed).keeps_defaulted (yields_content closed schemas) fun _ _ given _ =>
      ⟨given⟩
  all_goals exact (tracking closed).keeps_any fun _ _ start => { start with }

theorem yields_readResponse :
    Yields inputs (Response.Canonical inner) (readResponse depth) := by
  refine (tracking closed).record ⟨.nil⟩ ?_
  simp only [List.forall_mem_cons, List.not_mem_nil, false_imp_iff, implies_true, and_true]
  refine ⟨?_, ?content⟩
  case content =>
    exact (tracking closed).keeps_defaulted (yields_content closed schemas) fun _ _ given _ =>
      ⟨given⟩
  all_goals exact (tracking closed).keeps_any fun _ _ start => { start with }

end Schemas

theorem PathItem.operation?_setOperation (item : PathItem) (method other : Method)
    (o : Option Operation) :
    (item.setOperation method o).operation? other =
      if other = method then o else item.operation? other := by
  cases method <;> cases other <;> rfl

theorem PathItem.parameters_setOperation (item : PathItem) (method : Method)
    (o : Option Operation) : (item.setOperation method o).parameters = item.parameters := by
  cases method <;> rfl

/-- For values read from untyped ones, both readers of schemas are the same. -/
theorem readSchema_eq : (readSchema depth : FromUntyped Schema) = schemaFromUntyped depth := by
  induction depth with
  | zero => rfl
  | succ depth ih =>
      funext v
      rw [readSchema, schemaFromUntyped, ih]
      rfl

namespace Format.Tracking

variable {R : Type → Type} [Format R] (k : Tracking R)

theorem gives_readRefOr {read : FromUntyped α} (yields : Yields k.inputs property read) :
    k.Gives (RefOr.InPlace property) (readRefOr read) :=
  k.decide (yields_refOr yields)

theorem gives_requirements :
    k.Gives (fun requirements : List SecurityRequirement =>
        ∀ r ∈ requirements, Table.Distinct r) (Format.list readSecurityRequirement) :=
  k.list (k.mono (k.table (k.any _)) fun _ canonical => canonical.names)

section Schemas

variable (inside : Yields k.inputs inner (schemaFromUntyped depth))
include inside

theorem gives_readParameters :
    k.Gives (fun parameters : List (RefOr Parameter) =>
        ∀ part ∈ parameters, part.InPlace (Parameter.Canonical inner))
      (Format.list (readRefOr (readParameter depth))) :=
  k.list (k.gives_readRefOr (yields_readParameter k.closed inside))

theorem gives_readOperation :
    k.Gives (Operation.Canonical inner) (readOperation depth) := by
  refine k.record ⟨by simp, by simp, .nil, by simp⟩ ?_
  simp only [List.forall_mem_cons, List.not_mem_nil, false_imp_iff, implies_true, and_true]
  refine ⟨?_, ?_, ?_, ?parameters, ?requestBody, ?responses, ?security⟩
  case parameters =>
    exact k.keeps_defaulted (k.gives_readParameters inside) fun _ _ given start =>
      { start with parameters := given }
  case requestBody =>
    exact k.keeps_optional (k.gives_readRefOr (yields_readRequestBody k.closed inside))
      fun _ _ given start => { start with requestBody := given }
  case responses =>
    exact k.keeps_defaulted (k.table (k.gives_readRefOr (yields_readResponse k.closed inside)))
      fun _ _ given start => { start with responses := given }
  case security =>
    exact k.keeps_optional k.gives_requirements fun _ _ given start =>
      { start with security := given }
  all_goals exact k.keeps_any fun _ _ start => { start with }

theorem gives_readPathItem :
    k.Gives (PathItem.Canonical inner) (readPathItem depth) := by
  refine k.record ⟨by simp, fun method o declared => by cases method <;> cases declared⟩ ?_
  rw [List.forall_mem_cons]
  constructor
  · refine k.keeps_defaulted (k.gives_readParameters inside) fun parameters item given start =>
      ⟨given, ?_⟩
    intro method o declared
    refine start.operations method o ?_
    cases method <;> exact declared
  · intro field member
    obtain ⟨method, -, rfl⟩ := List.mem_map.mp member
    refine k.keeps_optional (k.gives_readOperation inside) fun value item given start => ⟨?_, ?_⟩
    · rw [PathItem.parameters_setOperation]
      exact start.parameters
    · intro other o declared
      rw [PathItem.operation?_setOperation] at declared
      split at declared
      · exact given o declared
      · exact start.operations other o declared

variable (schemas : k.Gives inner (readSchema depth))
  (schemes : Yields k.inputs scheme readSecurityScheme)
include schemas schemes

theorem gives_readComponents :
    k.Gives (Components.Canonical inner scheme) (readComponents depth) := by
  refine k.record ⟨.nil, .nil, .nil, .nil, .nil⟩ ?_
  simp only [List.forall_mem_cons, List.not_mem_nil, false_imp_iff, implies_true, and_true]
  refine ⟨?_, ?_, ?_, ?_, ?_⟩
  · exact k.keeps_defaulted (k.table schemas) fun _ _ given start =>
      { start with schemas := given }
  · exact k.keeps_defaulted (k.table (k.gives_readRefOr (yields_readParameter k.closed inside)))
      fun _ _ given start => { start with parameters := given }
  · exact k.keeps_defaulted (k.table (k.gives_readRefOr (yields_readRequestBody k.closed inside)))
      fun _ _ given start => { start with requestBodies := given }
  · exact k.keeps_defaulted (k.table (k.gives_readRefOr (yields_readResponse k.closed inside)))
      fun _ _ given start => { start with responses := given }
  · exact k.keeps_defaulted (k.table (k.gives_readRefOr schemes)) fun _ _ given start =>
      { start with securitySchemes := given }

theorem gives_readDocument :
    k.Gives (Document.Canonical inner scheme) (readDocument depth) := by
  refine k.record ⟨.nil, by simp, by simp⟩ ?_
  simp only [List.forall_mem_cons, List.not_mem_nil, false_imp_iff, implies_true, and_true]
  refine ⟨?_, ?_, ?_, ?paths, ?components, ?_, ?security⟩
  case paths =>
    exact k.keeps_defaulted (k.table (k.gives_readPathItem inside)) fun _ _ given start =>
      { start with paths := given }
  case components =>
    exact k.keeps_optional (k.gives_readComponents inside schemas schemes) fun _ _ given start =>
      { start with components := given }
  case security =>
    exact k.keeps_defaulted k.gives_requirements fun _ _ given start =>
      { start with security := given }
  all_goals exact k.keeps_any fun _ _ start => { start with }

end Schemas

/-- Every document that is read has distinct names in its tables, whatever is inside of its
schemas and security schemes. -/
theorem gives_distinct : k.Gives Document.Distinct (readDocument depth) := by
  have canonical : k.Gives (Document.Canonical (fun _ => True) fun _ => True)
      (readDocument depth) :=
    k.gives_readDocument FromUntyped.yields_true (k.any _) FromUntyped.yields_true
  exact k.mono canonical fun _ canonical => canonical.distinct

end Format.Tracking

end ApiReview
