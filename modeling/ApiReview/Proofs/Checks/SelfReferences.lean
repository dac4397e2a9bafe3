import ApiReview.Proofs.Checks.LoopReports
import ApiReview.Proofs.Checks.Sessions

/-!
# Schemas that refer to themselves

A component schema whose walk gets to a reference to that schema is reported
once, at the first such reference.  No other check reports this, and neither do
the rules of single nodes.
-/

namespace ApiReview

/-- The findings about schemas that refer to themselves. -/
def selfReferences (findings : List Finding) : List Finding :=
  findings.filter (·.rule == .selfReferencingSchema)

theorem selfReferences_append (first second : List Finding) :
    selfReferences (first ++ second) = selfReferences first ++ selfReferences second :=
  List.filter_append ..

namespace Checks

variable {d : Document} {name path : String} {body : Schema} {visits : List Visit}

/-- The first visit to a reference to the component schema of the given name. -/
def selfVisit? (name : String) (visits : List Visit) : Option Visit :=
  visits.find? fun visit => visit.schema.componentTarget? == some name

theorem isSome_selfVisit?_walk :
    (selfVisit? name (body.walk path [])).isSome = true ↔
      ∃ node, body.Reaches node ∧ node.componentTarget? = some name := by
  have targets : (selfVisit? name (body.walk path [])).isSome = true ↔
      name ∈ walkTargets (body.walk path []) := by
    simp [selfVisit?, walkTargets]
  rw [targets, mem_walkTargets]

theorem selfReferences_componentWalkFindings (reported : Bool) :
    selfReferences (componentWalkFindings d name reported visits) =
      if reported then []
      else (selfVisit? name visits).toList.map fun visit => selfReference name visit.path := by
  induction visits generalizing reported with
  | nil => cases reported <;> rfl
  | cons visit rest ih =>
      have ofVisit : selfReferences (visitFindings d visit) = [] :=
        fromRules_visitFindings.filter_eq_nil (by decide)
      simp only [componentWalkFindings, selfReferences_append, ofVisit, ih, List.append_nil]
      cases toItself : visit.schema.componentTarget? == some name
      · have later : selfVisit? name (visit :: rest) = selfVisit? name rest := by
          simp [selfVisit?, toItself]
        simp [later, selfReferences]
      · have first : selfVisit? name (visit :: rest) = some visit := by
          simp [selfVisit?, toItself]
        cases reported <;> simp [first, selfReferences, selfReference]

/-- A component schema is reported at the first reference to itself, if there is
one. -/
theorem selfReferences_componentSchemaFindings (d : Document) (name : String) (body : Schema) :
    selfReferences (componentSchemaFindings d name body) =
      (selfVisit? name (body.walk (Pointer.schema name) [])).toList.map fun visit =>
        (selfReference name visit.path).about name (Pointer.schema name) "schema" := by
  calc selfReferences (componentSchemaFindings d name body)
      = (selfReferences (componentWalkFindings d name false
          (body.walk (Pointer.schema name) []))).map
            (·.about name (Pointer.schema name) "schema") := filter_rule_map_about ..
    _ = _ := by
      rw [selfReferences_componentWalkFindings]
      simp

theorem selfReferences_schemasFindings (d : Document) :
    selfReferences (schemasFindings d) =
      d.schemas.flatMap fun (name, body) =>
        selfReferences (componentSchemaFindings d name body) := by
  have fromVisits : FromRules (.unresolvedReference :: nodeRules)
      (d.inlineSchemas.flatMap (inlineSchemaFindings d)) := by
    apply fromRules_flatMap.mpr
    intro located _
    exact fromRules_flatMap.mpr fun _ _ => fromRules_visitFindings
  have ofVisits : selfReferences (d.inlineSchemas.flatMap (inlineSchemaFindings d)) = [] :=
    fromVisits.filter_eq_nil (by decide)
  rw [schemasFindings, selfReferences_append, ofVisits, List.append_nil]
  exact List.filter_flatMap

/-- Only the check of schemas finds schemas that refer to themselves. -/
theorem selfReferences_findings (d : Document) (p : Policy) :
    selfReferences (d.findings p) = selfReferences (schemasFindings d) := by
  obtain ⟨ids, before, fromBefore, first⟩ := beforeSchemas_adds d p
  obtain ⟨ids', after, fromAfter, last⟩ := beforeLoops_adds d p
  have noneBefore : selfReferences before = [] := fromBefore.filter_eq_nil (by decide)
  have noneAfter : selfReferences after = [] := fromAfter.filter_eq_nil (by decide)
  have noneOfLoops : ∀ loops : List Loop, selfReferences (loops.map loopReport) = [] := by
    intro loops
    have fromLoops : FromRules [.circularDependency] (loops.map loopReport) := by
      apply fromRules_map.mpr
      intro loop _
      exact List.mem_singleton.mpr rfl
    exact fromLoops.filter_eq_nil (by decide)
  rw [findings_eq, findings_loops_run, last, schemas_run, first]
  simp only [selfReferences_append, noneBefore, noneAfter, noneOfLoops, List.append_nil]
  rfl

end Checks

end ApiReview
