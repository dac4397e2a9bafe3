import ApiReview.Review.Review

/-!
# The rules of each check

Each check has rules of its own, and reports findings of these rules only.  In
particular none of the checks before the last one reports a circular dependency.
-/

namespace ApiReview

/-- All of the findings are findings of the given rules. -/
def FromRules (rules : List Rule) (findings : List Finding) : Prop :=
  ∀ finding ∈ findings, finding.rule ∈ rules

section FromRules

variable {α : Type} {rules : List Rule} {findings : List Finding}

@[simp]
theorem Finding.rule_of (rule : Rule) (message location : String) :
    (Finding.of rule message location).rule = rule :=
  rfl

@[simp]
theorem Finding.rule_about (finding : Finding) (name path type : String) :
    (finding.about name path type).rule = finding.rule :=
  rfl

@[simp]
theorem fromRules_nil : FromRules rules [] := by
  simp [FromRules]

@[simp]
theorem fromRules_cons {finding : Finding} :
    FromRules rules (finding :: findings) ↔ finding.rule ∈ rules ∧ FromRules rules findings :=
  List.forall_mem_cons

@[simp]
theorem fromRules_append {first second : List Finding} :
    FromRules rules (first ++ second) ↔ FromRules rules first ∧ FromRules rules second :=
  List.forall_mem_append

@[simp]
theorem fromRules_flatMap {items : List α} {list : α → List Finding} :
    FromRules rules (items.flatMap list) ↔ ∀ item ∈ items, FromRules rules (list item) := by
  simp only [FromRules, List.mem_flatMap]
  constructor
  · intro all item member finding found
    exact all finding ⟨item, member, found⟩
  · rintro all finding ⟨item, member, found⟩
    exact all item member finding found

@[simp]
theorem fromRules_map {items : List α} {one : α → Finding} :
    FromRules rules (items.map one) ↔ ∀ item ∈ items, (one item).rule ∈ rules := by
  simp [FromRules]

theorem fromRules_map_about {name path type : String} :
    FromRules rules (findings.map (·.about name path type)) ↔ FromRules rules findings := by
  simp [FromRules]

@[simp]
theorem fromRules_ite {condition : Prop} [Decidable condition] {first second : List Finding} :
    FromRules rules (if condition then first else second) ↔
      (condition → FromRules rules first) ∧ (¬condition → FromRules rules second) := by
  split <;> simp [*]

theorem FromRules.mono {more : List Rule} (fromRules : FromRules rules findings)
    (subset : rules ⊆ more) : FromRules more findings :=
  fun finding member => subset (fromRules finding member)

/-- Findings of some rules are all left out where findings of other rules are kept. -/
theorem FromRules.filter_eq_nil_of {kept : List Rule} {keep : Finding → Bool}
    (fromRules : FromRules rules findings)
    (only : ∀ finding, keep finding = true → finding.rule ∈ kept)
    (apart : ∀ rule ∈ rules, rule ∉ kept) : findings.filter keep = [] := by
  apply List.filter_eq_nil_iff.mpr
  intro finding member keeps
  exact apart finding.rule (fromRules finding member) (only finding keeps)

theorem FromRules.filter_eq_nil {rule : Rule} (fromRules : FromRules rules findings)
    (other : rule ∉ rules) : findings.filter (·.rule == rule) = [] := by
  have only : ∀ finding : Finding, (finding.rule == rule) = true → finding.rule ∈ [rule] := by simp
  refine fromRules.filter_eq_nil_of only fun listed member same => ?_
  rw [List.mem_singleton.mp same] at member
  exact other member

theorem FromRules.filter_eq_self {rule : Rule} (fromRule : FromRules [rule] findings) :
    findings.filter (·.rule == rule) = findings :=
  List.filter_eq_self.mpr fun finding member =>
    beq_iff_eq.mpr (List.mem_singleton.mp (fromRule finding member))

theorem filter_rule_map_about (rule : Rule) (name path type : String) :
    (findings.map (·.about name path type)).filter (·.rule == rule) =
      (findings.filter (·.rule == rule)).map (·.about name path type) := by
  rw [List.filter_map]
  rfl

end FromRules

namespace Checks

variable {d : Document} {policy : Policy} {s : Schema} {path : String}

/-- The rules of the outline of a document. -/
def structureRules : List Rule :=
  [.missingTitle, .missingVersion, .missingServers, .emptyServerUrl, .noPaths]

theorem fromRules_structureFindings : FromRules structureRules (structureFindings d) := by
  simp [structureFindings, serverFindings, structureRules]

/-- The rules of paths and operations. -/
def pathRules : List Rule :=
  [.invalidPathFormat, .emptyPathItem, .missingPathParameter, .unusedPathParameter,
    .missingOperationId, .invalidOperationId, .duplicateOperationId, .missingResponses,
    .noSuccessResponse, .multipleSuccessResponses]

theorem fromRules_pathFindings {item : PathItem} :
    FromRules [.invalidPathFormat, .emptyPathItem] (pathFindings path item) := by
  simp [pathFindings]

theorem fromRules_pathParameterFindings {site : OperationSite} :
    FromRules [.missingPathParameter, .unusedPathParameter] (pathParameterFindings d site) := by
  simp [pathParameterFindings]

theorem fromRules_successFindings {site : OperationSite} :
    FromRules [.missingResponses, .noSuccessResponse, .multipleSuccessResponses]
      (successFindings site) := by
  unfold successFindings
  simp only [fromRules_ite]
  refine ⟨fun _ => by simp, fun _ => ?_⟩
  split <;> simp

/-- The rules of parameters. -/
def parameterRules : List Rule :=
  [.unresolvedReference, .missingParameterName, .duplicateParameter,
    .pathParameterNotRequired, .missingParameterSchema, .complexInlineParameterSchema,
    .nullableRequiredParameter]

theorem fromRules_parameterFindings {owner : String} {entries : List (RefOr Parameter)}
    {index : Nat} {seen : List (String × ParameterPlace)} :
    FromRules parameterRules (parameterFindings d policy owner entries index seen) := by
  induction entries generalizing index seen with
  | nil => simp [parameterFindings]
  | cons entry rest ih =>
      rw [parameterFindings]
      split
      · exact fromRules_cons.mpr ⟨by simp [parameterRules], ih⟩
      · split
        · exact fromRules_cons.mpr ⟨by simp [parameterRules], ih⟩
        · exact fromRules_append.mpr
            ⟨by simp [namedParameterFindings, parameterRules], ih⟩

/-- The rules of request bodies and responses. -/
def responseRules : List Rule :=
  [.unresolvedReference, .inlineComplexSchema, .binaryInJsonContent,
    .emptyRequestBodyContent, .missingResponseDescription]

theorem fromRules_mediaFindings {owner mediaType : String} {media : MediaType} :
    FromRules responseRules (mediaFindings owner mediaType media) := by
  unfold mediaFindings
  split <;> simp [responseRules]

theorem fromRules_contentFindings {owner : String} {content : Table MediaType} :
    FromRules responseRules (contentFindings owner content) :=
  fromRules_flatMap.mpr fun _ _ => fromRules_mediaFindings

theorem fromRules_requestBodyFindings {pointer : String} {body : RequestBody} :
    FromRules responseRules (requestBodyFindings pointer body) :=
  fromRules_append.mpr ⟨by simp [responseRules], fromRules_contentFindings⟩

theorem fromRules_responseFindings {pointer : String} {response : Response} :
    FromRules responseRules (responseFindings pointer response) :=
  fromRules_append.mpr ⟨by simp [responseRules], fromRules_contentFindings⟩

theorem fromRules_usedPartFindings {α : Type} {resolve : RefOr α → Option α}
    {check : String → α → List Finding} {pointer : String} {part : RefOr α}
    (checked : ∀ pointer value, FromRules responseRules (check pointer value)) :
    FromRules responseRules (usedPartFindings resolve check pointer part) := by
  cases part with
  | item value => exact checked pointer value
  | ref reference => simp [usedPartFindings, unresolved, responseRules]

theorem fromRules_componentFindings {α : Type} {check : String → α → List Finding}
    {sort : String} {table : Table (RefOr α)}
    (checked : ∀ pointer value, FromRules responseRules (check pointer value)) :
    FromRules responseRules (componentFindings check sort table) := by
  unfold componentFindings
  rw [fromRules_flatMap]
  rintro ⟨name, part⟩ -
  cases part with
  | item value => exact checked _ value
  | ref reference => exact fromRules_nil

theorem fromRules_operationBodyFindings {site : OperationSite} :
    FromRules responseRules (operationBodyFindings d site) := by
  unfold operationBodyFindings
  simp only [fromRules_append, fromRules_flatMap]
  exact ⟨fun _ _ => fromRules_usedPartFindings fun _ _ => fromRules_requestBodyFindings,
    fun _ _ => fromRules_usedPartFindings fun _ _ => fromRules_responseFindings⟩

/-- The rules of the nodes of schemas. -/
def schemaRules : List Rule :=
  [.unresolvedReference, .selfReferencingSchema, .emptyPropertySchema, .emptyArrayItems,
    .missingDiscriminatorProperty, .discriminatorPropertyNotRequired,
    .missingDiscriminatorMapping, .invalidDiscriminatorMapping, .missingDiscriminator,
    .invalidAllOfFragment, .invalidRange, .invalidPattern, .weakTyping, .emptyEnumValue,
    .emptyEnum, .singleValueEnum, .booleanEnum, .nestedArrayEnum, .mixedTypeEnum]

/-- The rules of single nodes that are no references. -/
def nodeRules : List Rule :=
  schemaRules.filter fun rule => rule != .unresolvedReference && rule != .selfReferencingSchema

theorem fromRules_referenceFindings {visit : Visit} :
    FromRules [.unresolvedReference] (referenceFindings d visit) := by
  unfold referenceFindings
  split <;> simp

theorem fromRules_discriminatorFindings :
    FromRules nodeRules (discriminatorFindings d s path) := by
  unfold discriminatorFindings declaredDiscriminatorFindings
  split
  · simp only [fromRules_append]
    refine ⟨⟨?_, by simp [nodeRules, schemaRules]⟩, by simp [nodeRules, schemaRules]⟩
    split <;> simp [nodeRules, schemaRules]
  · simp [nodeRules, schemaRules]

theorem fromRules_allOfFindings : FromRules nodeRules (allOfFindings d s path) := by
  unfold allOfFindings
  rw [fromRules_flatMap]
  rintro ⟨member, index⟩ -
  dsimp only
  split <;> simp [nodeRules, schemaRules]

theorem fromRules_boundsFindings : FromRules nodeRules (boundsFindings s path) := by
  simp [boundsFindings, boundFindings, countFindings, rangeFindings, nodeRules, schemaRules]

theorem fromRules_patternFindings : FromRules nodeRules (patternFindings s path) := by
  unfold patternFindings
  split
  · exact fromRules_nil
  · split <;> simp [nodeRules, schemaRules]

theorem fromRules_enumFindings : FromRules nodeRules (enumFindings s path) := by
  unfold enumFindings
  split <;> simp [enumValueFindings, nodeRules, schemaRules]

theorem fromRules_emptyPropertyFindings {visit : Visit} :
    FromRules nodeRules (emptyPropertyFindings visit) := by
  unfold emptyPropertyFindings
  split <;> simp [nodeRules, schemaRules]

theorem fromRules_nodeFindings {visit : Visit} :
    FromRules nodeRules (nodeFindings d visit) := by
  simp only [nodeFindings, fromRules_append, fromRules_emptyPropertyFindings,
    fromRules_discriminatorFindings, fromRules_allOfFindings, fromRules_boundsFindings,
    fromRules_patternFindings, fromRules_enumFindings, true_and, and_true]
  simp [nodeRules, schemaRules]

theorem fromRules_visitFindings {visit : Visit} :
    FromRules (.unresolvedReference :: nodeRules) (visitFindings d visit) := by
  unfold visitFindings
  split
  · exact fromRules_referenceFindings.mono (by simp)
  · exact fromRules_nodeFindings.mono (by simp)

theorem fromRules_componentWalkFindings {name : String} {reported : Bool}
    {visits : List Visit} :
    FromRules schemaRules (componentWalkFindings d name reported visits) := by
  induction visits generalizing reported with
  | nil => exact fromRules_nil
  | cons visit rest ih =>
      have visited : FromRules schemaRules (visitFindings d visit) :=
        fromRules_visitFindings.mono (by decide)
      simp only [componentWalkFindings, fromRules_append, visited, ih]
      simp [selfReference, schemaRules]

theorem fromRules_componentSchemaFindings {name : String} :
    FromRules schemaRules (componentSchemaFindings d name s) :=
  fromRules_map_about.mpr fromRules_componentWalkFindings

theorem fromRules_inlineSchemaFindings {located : LocatedSchema} :
    FromRules schemaRules (inlineSchemaFindings d located) :=
  fromRules_flatMap.mpr fun _ _ => fromRules_visitFindings.mono (by decide)

/-- The rules of the names of component schemas. -/
def namingRules : List Rule :=
  [.invalidSchemaName, .reservedKeywordName, .normalizedNameCollision]

theorem fromRules_nameFindings {name : String} {owner : Option String} :
    FromRules namingRules (nameFindings policy name owner) := by
  unfold nameFindings
  rw [fromRules_map_about]
  simp [namingRules]

theorem fromRules_namesFindings {names : List String} {claimed : Table String} :
    FromRules namingRules (namesFindings policy names claimed) := by
  induction names generalizing claimed with
  | nil => exact fromRules_nil
  | cons name rest ih =>
      unfold namesFindings
      dsimp only
      split
      · exact fromRules_append.mpr ⟨fromRules_nameFindings, ih⟩
      · split <;> exact fromRules_append.mpr ⟨fromRules_nameFindings, ih⟩

/-- The rules of security. -/
def securityRules : List Rule :=
  [.unresolvedReference, .missingOAuth2Flows, .undefinedSecurityScheme]

theorem fromRules_schemeFindings {name : String} {scheme : RefOr SecurityScheme} :
    FromRules securityRules (schemeFindings d name scheme) := by
  unfold schemeFindings
  dsimp only
  split <;> simp [securityRules]

theorem fromRules_requirementFindings {owner : String}
    {requirements : List SecurityRequirement} :
    FromRules securityRules (requirementFindings d owner requirements) := by
  simp [requirementFindings, securityRules]

/-- The rules of tags. -/
def tagRules : List Rule :=
  [.missingTags, .undeclaredTag]

theorem fromRules_tagFindings {site : OperationSite} :
    FromRules tagRules (tagFindings d site) := by
  simp [tagFindings, tagRules]

end Checks

end ApiReview
