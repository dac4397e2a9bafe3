import ApiReview.Checks.Bodies
import ApiReview.Proofs.Checks.Rules
import ApiReview.Proofs.Checks.Runs
import ApiReview.Proofs.Document.BodyParts

/-!
# Request bodies and responses are checked where they stand

The check of bodies and responses and the list of the schemas given in place go through the
same parts of a document.  A part given in place is checked there, and an operation that
refers to a part is only told when the reference leads nowhere.  So what is found in a
component does not depend on the operations.
-/

namespace ApiReview

variable {d : Document} {s : Session} {owner : BodyOwner} {part : BodyPart}

namespace BodySchema

/-- Should the schema be a component of its own? -/
def isComplexInline (b : BodySchema) : Bool :=
  b.schema.shape.isComplexInline

/-- Is the schema one of binary data that is sent as JSON? -/
def isBinaryInJson (b : BodySchema) : Bool :=
  isJsonMediaType b.mediaType && b.schema.shape.isBinaryString

def complexInline (b : BodySchema) : Finding :=
  .of .inlineComplexSchema
    ("Inline object schema under '" ++ b.mediaType ++
      "'; extract it to components/schemas for a named model") b.pointer

def binaryInJson (b : BodySchema) : Finding :=
  .of .binaryInJsonContent
    ("Binary string schema declared under JSON media type '" ++ b.mediaType ++ "'") b.pointer

/-- The findings about a schema. -/
def findings (b : BodySchema) : List Finding :=
  (if b.isComplexInline then [b.complexInline] else []) ++
    if b.isBinaryInJson then [b.binaryInJson] else []

/-- A rule reports each of the schemas that it selects, in their order. -/
theorem filter_flatMap_findings {rule : Rule} {select : BodySchema → Bool}
    {report : BodySchema → Finding}
    (each : ∀ b : BodySchema,
      b.findings.filter (·.rule == rule) = if select b then [report b] else [])
    (schemas : List BodySchema) :
    (schemas.flatMap findings).filter (·.rule == rule) = (schemas.filter select).map report := by
  induction schemas with
  | nil => rfl
  | cons b rest ih =>
      rw [List.flatMap_cons, List.filter_append, ih, each, List.filter_cons]
      cases select b <;> rfl

theorem filter_findings_complexInline (b : BodySchema) :
    b.findings.filter (·.rule == .inlineComplexSchema) =
      if b.isComplexInline then [b.complexInline] else [] := by
  unfold findings
  cases b.isComplexInline <;> cases b.isBinaryInJson <;> rfl

theorem filter_findings_binaryInJson (b : BodySchema) :
    b.findings.filter (·.rule == .binaryInJsonContent) =
      if b.isBinaryInJson then [b.binaryInJson] else [] := by
  unfold findings
  cases b.isComplexInline <;> cases b.isBinaryInJson <;> rfl

end BodySchema

/-- The body or response below which a finding is located. -/
def Finding.bodyOwner? (finding : Finding) : Option BodyOwner :=
  (BodyOwner.at? finding.location).map Prod.fst

/-- The findings at a body or a response. -/
def findingsIn (owner : BodyOwner) (findings : List Finding) : List Finding :=
  findings.filter (·.bodyOwner? == some owner)

namespace Checks

/-- What is found for a part: what its own check finds, or that it leads nowhere, which is
not said of components. -/
def partFindings (d : Document) (owner : BodyOwner) : BodyPart → List Finding
  | .requestBody (.item b) => requestBodyFindings owner.pointer b
  | .response (.item r) => responseFindings owner.pointer r
  | .requestBody (.ref reference) =>
    if owner.isShared || (d.resolveRequestBody (.ref reference)).isSome then []
    else [unresolved reference owner.pointer]
  | .response (.ref reference) =>
    if owner.isShared || (d.resolveResponse (.ref reference)).isSome then []
    else [unresolved reference owner.pointer]

section Parts

theorem operationBodyFindings_eq (d : Document) (site : OperationSite) :
    operationBodyFindings d site =
      site.bodyParts.flatMap fun (owner, part) => partFindings d owner part := by
  unfold operationBodyFindings OperationSite.bodyParts
  rw [List.flatMap_append, List.flatMap_map, List.flatMap_map]
  congr 1
  · refine List.flatMap_congr fun part _ => ?_
    rw [site.pointer_requestBody]
    cases part with
    | item b => rfl
    | ref reference => cases found : d.resolveRequestBody (.ref reference) <;>
        simp [usedPartFindings, partFindings, BodyOwner.isShared, BodyOwner.operation?, found]
  · refine List.flatMap_congr ?_
    rintro ⟨status, part⟩ -
    dsimp only
    rw [site.pointer_response]
    cases part with
    | item r => rfl
    | ref reference => cases found : d.resolveResponse (.ref reference) <;>
        simp [usedPartFindings, partFindings, BodyOwner.isShared, BodyOwner.operation?, found]

theorem componentFindings_eq (d : Document) (c : Components) :
    componentFindings requestBodyFindings "requestBodies" c.requestBodies ++
        componentFindings responseFindings "responses" c.responses =
      c.bodyParts.flatMap fun (owner, part) => partFindings d owner part := by
  unfold componentFindings Components.bodyParts
  rw [List.flatMap_append, List.flatMap_map, List.flatMap_map]
  congr 1
  · refine List.flatMap_congr ?_
    rintro ⟨name, part⟩ -
    dsimp only
    rw [pointer_sharedRequestBody]
    cases part <;> rfl
  · refine List.flatMap_congr ?_
    rintro ⟨name, part⟩ -
    dsimp only
    rw [pointer_sharedResponse]
    cases part <;> rfl

/-- The check goes through the parts that are listed. -/
theorem added_responses (d : Document) (s : Session) :
    responses.added d s = d.bodyParts.flatMap fun (owner, part) => partFindings d owner part := by
  have adds : responses.AddsOnly _ := .of_document fun _ _ => rfl
  rw [adds.added, Document.bodyParts, List.flatMap_append, List.flatMap_assoc,
    ← componentFindings_eq, List.append_assoc]
  congr 1
  exact List.flatMap_congr fun site _ => operationBodyFindings_eq d site

end Parts

section Rules

theorem contentFindings_eq (owner : BodyOwner) (content : Table MediaType) :
    contentFindings owner.pointer content =
      (content.filterMap fun (mediaType, media) =>
        media.schema.map (BodySchema.mk owner mediaType)).flatMap BodySchema.findings := by
  unfold contentFindings
  rw [List.filterMap_eq_flatMap_toList, List.flatMap_assoc]
  refine List.flatMap_congr ?_
  rintro ⟨mediaType, media⟩ -
  dsimp only
  unfold mediaFindings
  cases media.schema with
  | none => rfl
  | some schema =>
      rw [Option.map_some, Option.toList_some, List.flatMap_singleton]
      dsimp only
      rw [owner.pointer_content mediaType schema]
      rfl

/-- The rules about schemas report nothing of a part but the schemas in its content. -/
theorem filter_partFindings {keep : Finding → Bool}
    (only : ∀ finding, keep finding = true →
      finding.rule ∈ [Rule.inlineComplexSchema, .binaryInJsonContent]) :
    (partFindings d owner part).filter keep =
      ((bodySchemasOf owner part).flatMap BodySchema.findings).filter keep := by
  have others (rule : Rule) {findings : List Finding} (fromRule : FromRules [rule] findings)
      (apart : rule ∉ [Rule.inlineComplexSchema, .binaryInJsonContent]) :
      findings.filter keep = [] :=
    fromRule.filter_eq_nil_of only (List.forall_mem_singleton.mpr apart)
  rcases part with ⟨reference | b⟩ | ⟨reference | r⟩
  · refine others .unresolvedReference ?_ (by decide)
    simp [partFindings, unresolved]
  · have content : (if b.content.isEmpty then
        [Finding.of .emptyRequestBodyContent "Request body declares no content" owner.pointer]
        else []).filter keep = [] :=
      others .emptyRequestBodyContent (by simp) (by decide)
    rw [partFindings, requestBodyFindings, List.filter_append, content, List.nil_append,
      contentFindings_eq]
    rfl
  · refine others .unresolvedReference ?_ (by decide)
    simp [partFindings, unresolved]
  · have description : (if Text.isMissing r.description then
        [Finding.of .missingResponseDescription "Response has no description"
          (owner.pointer ++ "/description")] else []).filter keep = [] :=
      others .missingResponseDescription (by simp) (by decide)
    rw [partFindings, responseFindings, List.filter_append, description, List.nil_append,
      contentFindings_eq]
    rfl

theorem filter_responses (distinct : d.Distinct) (s : Session) {keep : Finding → Bool}
    (only : ∀ finding, keep finding = true →
      finding.rule ∈ [Rule.inlineComplexSchema, .binaryInJsonContent]) :
    (responses.added d s).filter keep =
      (d.bodySchemas.flatMap BodySchema.findings).filter keep := by
  rw [added_responses, Document.bodySchemas_eq distinct, List.flatMap_assoc, List.filter_flatMap,
    List.filter_flatMap]
  exact List.flatMap_congr fun entry _ => filter_partFindings only

end Rules

section Owners

open Pointer (ofKeys)

theorem bodyOwner?_of_location {finding : Finding} {rest : List String}
    (located : finding.location = ofKeys (owner.keys ++ rest)) :
    finding.bodyOwner? = some owner := by
  rw [Finding.bodyOwner?, located, BodyOwner.at?_ofKeys.mpr rfl]
  rfl

theorem bodyOwner?_findings {b : BodySchema} {finding : Finding}
    (found : finding ∈ b.findings) : finding.bodyOwner? = some b.owner := by
  have located : finding.location = b.pointer := by
    rcases List.mem_append.mp found with complex | binary
    · rw [(List.mem_ite_nil_right.mp complex).2 |> List.mem_singleton.mp]
      rfl
    · rw [(List.mem_ite_nil_right.mp binary).2 |> List.mem_singleton.mp]
      rfl
  exact bodyOwner?_of_location located

theorem bodyOwner?_contentFindings {content : Table MediaType} {finding : Finding}
    (found : finding ∈ contentFindings owner.pointer content) :
    finding.bodyOwner? = some owner := by
  rw [contentFindings_eq] at found
  obtain ⟨b, listed, found⟩ := List.mem_flatMap.mp found
  obtain ⟨⟨mediaType, media⟩, -, given⟩ := List.mem_filterMap.mp listed
  obtain ⟨schema, -, rfl⟩ := Option.map_eq_some_iff.mp given
  exact bodyOwner?_findings found

/-- What is found for a part is located at this part. -/
theorem bodyOwner?_partFindings {finding : Finding}
    (found : finding ∈ partFindings d owner part) : finding.bodyOwner? = some owner := by
  have itself : ofKeys owner.keys = ofKeys (owner.keys ++ []) := by rw [List.append_nil]
  rcases part with ⟨reference | b⟩ | ⟨reference | r⟩
  · obtain ⟨-, rfl⟩ : _ ∧ finding = _ := by simpa [partFindings] using found
    exact bodyOwner?_of_location itself
  · rcases List.mem_append.mp found with empty | content
    · obtain ⟨-, rfl⟩ : _ ∧ finding = _ := by simpa using empty
      exact bodyOwner?_of_location itself
    · exact bodyOwner?_contentFindings content
  · obtain ⟨-, rfl⟩ : _ ∧ finding = _ := by simpa [partFindings] using found
    exact bodyOwner?_of_location itself
  · rcases List.mem_append.mp found with blank | content
    · obtain ⟨-, rfl⟩ : _ ∧ finding = _ := by simpa using blank
      exact bodyOwner?_of_location (Pointer.ofKeys_append "description" (by decide))
    · exact bodyOwner?_contentFindings content

/-- What is found at a part is what is found for it. -/
theorem findingsIn_responses (distinct : d.Distinct) (s : Session)
    (listed : (owner, part) ∈ d.bodyParts) :
    findingsIn owner (responses.added d s) = partFindings d owner part := by
  have owned : ∀ entry ∈ d.bodyParts, ∀ finding ∈ partFindings d entry.1 entry.2,
      (finding.bodyOwner? == some entry.1) = true := fun entry _ finding found =>
    beq_iff_eq.mpr (bodyOwner?_partFindings found)
  have apart : d.bodyParts.Pairwise fun one two => ∀ finding : Finding,
      (finding.bodyOwner? == some one.1) = true → (finding.bodyOwner? == some two.1) = false := by
    refine (List.pairwise_map.mp (d.nodup_bodyParts distinct)).imp fun differ finding own => ?_
    rw [eq_of_beq own]
    simpa using differ
  rw [added_responses]
  exact filter_flatMap_of_apart owned apart listed

theorem partFindings_of_isShared (other : Document) (shared : owner.isShared = true) :
    partFindings other owner part = partFindings d owner part := by
  rcases part with ⟨reference | b⟩ | ⟨reference | r⟩ <;> simp [partFindings, shared]

/-- What is found at the components depends on the components only. -/
theorem findingsIn_of_isShared {other : Document} (same : other.components = d.components)
    (s t : Session) (shared : owner.isShared = true) :
    findingsIn owner (responses.added other t) = findingsIn owner (responses.added d s) := by
  have atComponents (d : Document) (s : Session) :
      findingsIn owner (responses.added d s) =
        findingsIn owner (d.allComponents.bodyParts.flatMap fun (owner, part) =>
          partFindings {} owner part) := by
    have operations : findingsIn owner ((d.operations.flatMap OperationSite.bodyParts).flatMap
        fun (owner, part) => partFindings d owner part) = [] := by
      refine List.filter_eq_nil_iff.mpr fun finding found own => ?_
      obtain ⟨⟨other, part⟩, listed, found⟩ := List.mem_flatMap.mp found
      obtain ⟨site, -, listed⟩ := List.mem_flatMap.mp listed
      rw [bodyOwner?_partFindings found] at own
      obtain rfl := Option.some.inj (eq_of_beq own)
      rw [BodyOwner.isShared, OperationSite.operation?_of_mem_bodyParts
        (List.mem_map_of_mem (f := Prod.fst) listed)] at shared
      cases shared
    rw [findingsIn] at operations
    rw [added_responses, Document.bodyParts, List.flatMap_append, findingsIn, List.filter_append,
      operations, List.nil_append, findingsIn]
    congr 1
    refine List.flatMap_congr ?_
    rintro ⟨owner, part⟩ listed
    refine partFindings_of_isShared d ?_
    rw [BodyOwner.isShared, Components.operation?_of_mem_bodyParts
      (List.mem_map_of_mem (f := Prod.fst) listed)]
    rfl
  rw [atComponents, atComponents, Document.allComponents, same, Document.allComponents]

end Owners

section References

variable {site : OperationSite} {reference : String}

theorem findingsIn_requestBody_ref (distinct : d.Distinct) (s : Session)
    (member : site ∈ d.operations) (given : site.operation.requestBody = some (.ref reference)) :
    findingsIn (.requestBody site.path site.method) (responses.added d s) =
      if (d.resolveRequestBody (.ref reference)).isSome then []
      else [unresolved reference (site.pointer ++ "/requestBody")] := by
  have listed : (.requestBody site.path site.method, .requestBody (.ref reference)) ∈
      d.bodyParts := by
    refine List.mem_append_left _ (List.mem_flatMap.mpr ⟨site, member, List.mem_append_left _ ?_⟩)
    rw [given]
    exact List.mem_singleton.mpr rfl
  rw [findingsIn_responses distinct s listed, site.pointer_requestBody]
  rfl

theorem findingsIn_response_ref (distinct : d.Distinct) (s : Session)
    (member : site ∈ d.operations) {status : String}
    (given : (status, .ref reference) ∈ site.operation.responses) :
    findingsIn (.response site.path site.method status) (responses.added d s) =
      if (d.resolveResponse (.ref reference)).isSome then []
      else [unresolved reference (Pointer.child (site.pointer ++ "/responses") status)] := by
  have listed : (.response site.path site.method status, .response (.ref reference)) ∈
      d.bodyParts :=
    List.mem_append_left _ (List.mem_flatMap.mpr
      ⟨site, member, List.mem_append_right _ (List.mem_map.mpr ⟨_, given, rfl⟩)⟩)
  rw [findingsIn_responses distinct s listed, site.pointer_response]
  rfl

end References

/-- The schemas in the content of bodies and responses are those that are listed as given in
place, each once, and they are reported in this order.  An operation that refers to a body
or a response is told when the reference leads nowhere, and nothing else.  What is found at
the components is the same whatever the operations are. -/
theorem bodies_checked_in_place (d : Document) (distinct : d.Distinct) (s : Session) :
    ((∀ b : BodySchema, b ∈ d.bodySchemas ↔ (b.pointer, b.schema) ∈ d.inlineSchemas) ∧
      (d.bodySchemas.map BodySchema.pointer).Nodup ∧
      (responses.added d s).filter (·.rule == .inlineComplexSchema) =
        (d.bodySchemas.filter BodySchema.isComplexInline).map BodySchema.complexInline ∧
      (responses.added d s).filter (·.rule == .binaryInJsonContent) =
        (d.bodySchemas.filter BodySchema.isBinaryInJson).map BodySchema.binaryInJson) ∧
    (∀ site ∈ d.operations,
      (∀ reference, site.operation.requestBody = some (.ref reference) →
        findingsIn (.requestBody site.path site.method) (responses.added d s) =
          if (d.resolveRequestBody (.ref reference)).isSome then []
          else [unresolved reference (site.pointer ++ "/requestBody")]) ∧
      ∀ status reference, (status, .ref reference) ∈ site.operation.responses →
        findingsIn (.response site.path site.method status) (responses.added d s) =
          if (d.resolveResponse (.ref reference)).isSome then []
          else [unresolved reference (Pointer.child (site.pointer ++ "/responses") status)]) ∧
    ∀ (other : Document) (t : Session), other.components = d.components →
      ∀ owner : BodyOwner, owner.isShared = true →
        findingsIn owner (responses.added other t) = findingsIn owner (responses.added d s) := by
  refine ⟨⟨fun b => Document.mem_bodySchemas distinct, Document.nodup_pointer_bodySchemas distinct,
    ?_, ?_⟩, ?_, ?_⟩
  · rw [filter_responses distinct s fun finding kept => by rw [eq_of_beq kept]; decide]
    exact BodySchema.filter_flatMap_findings BodySchema.filter_findings_complexInline _
  · rw [filter_responses distinct s fun finding kept => by rw [eq_of_beq kept]; decide]
    exact BodySchema.filter_flatMap_findings BodySchema.filter_findings_binaryInJson _
  · intro site member
    exact ⟨fun reference given => findingsIn_requestBody_ref distinct s member given,
      fun status reference given => findingsIn_response_ref distinct s member given⟩
  · intro other t same owner shared
    exact findingsIn_of_isShared same s t shared

/-- The operation refers to a body through another one, and to a response that is not there. -/
def petCreation : OperationSite :=
  let operation : Operation :=
    { requestBody := some (.ref "#/components/requestBodies/Pet")
      responses := [("404", .ref "#/components/responses/Gone")] }
  { path := "/pets", item := { post := some operation }, method := .post, operation }

/-- An object with structure of its own. -/
def petSchema : Schema :=
  { type := some (.single "object"), properties := [("name", {})] }

/-- No operation refers to the response that lists the pets. -/
def pets : Document where
  paths := [(petCreation.path, petCreation.item)]
  components := some
    { requestBodies :=
        [("Pet", .ref "#/components/requestBodies/NewPet"),
         ("NewPet", .item { content := [("application/json", { schema := some petSchema })] })]
      responses :=
        [("Pets", .item
          { description := some "All pets."
            content :=
              [("application/json",
                { schema := some { type := some (.single "array"), items := some petSchema } }),
               ("application/pictures+json",
                { schema := some { type := some (.single "string"), format := some "byte" } })] })] }

theorem bodies_checked_in_place_pets :
    (pets.bodySchemas.filter BodySchema.isComplexInline).map BodySchema.pointer =
        ["#/components/requestBodies/NewPet/content/application~1json/schema",
          "#/components/responses/Pets/content/application~1json/schema"] ∧
      (pets.bodySchemas.filter BodySchema.isBinaryInJson).map BodySchema.pointer =
        ["#/components/responses/Pets/content/application~1pictures+json/schema"] ∧
      findingsIn (.requestBody "/pets" .post) (responses.added pets {}) = [] ∧
      findingsIn (.response "/pets" .post "404") (responses.added pets {}) =
        [unresolved "#/components/responses/Gone" "#/paths/~1pets/post/responses/404"] ∧
      findingsIn (.sharedResponse "Pets") (responses.added { pets with paths := [] } {}) =
        findingsIn (.sharedResponse "Pets") (responses.added pets {}) := by
  have distinct : pets.Distinct := by decide
  obtain ⟨⟨-, -, complex, binary⟩, references, shared⟩ := bodies_checked_in_place pets distinct {}
  obtain ⟨body, response⟩ := references petCreation (.head _)
  have found : (pets.resolveRequestBody (.ref "#/components/requestBodies/Pet")).isSome = true := by
    decide
  have lost : (pets.resolveResponse (.ref "#/components/responses/Gone")).isSome = false := by
    decide
  have complexLocations := congrArg (List.map Finding.location) complex
  have binaryLocations := congrArg (List.map Finding.location) binary
  rw [List.map_map] at complexLocations binaryLocations
  refine ⟨complexLocations.symm.trans ?_, binaryLocations.symm.trans ?_, ?_, ?_,
    shared { pets with paths := [] } {} rfl _ rfl⟩
  · decide +kernel
  · decide +kernel
  · exact (body _ rfl).trans (if_pos found)
  · refine (response "404" _ (.head _)).trans ?_
    rw [lost]
    decide +kernel

end Checks

end ApiReview
