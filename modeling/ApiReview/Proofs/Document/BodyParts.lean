import ApiReview.Proofs.Document.BodyOwners

/-!
# The request bodies and responses of a document

The request bodies and responses are listed, given in place or by reference, those of the
operations before the components.  The schemas given in place that belong to bodies and
responses are those of the content of the listed parts.
-/

namespace ApiReview

open BodySchema (ofLocated?)

/-- A request body or a response, given in place or by reference. -/
inductive BodyPart where
  | requestBody (part : RefOr RequestBody)
  | response (part : RefOr Response)

/-- What is sent under each media type; nothing for a reference. -/
def BodyPart.content : BodyPart → Table MediaType
  | requestBody (.item b) => b.content
  | response (.item r) => r.content
  | requestBody (.ref _) | response (.ref _) => []

/-- The body and the responses of an operation. -/
def OperationSite.bodyParts (site : OperationSite) : List (BodyOwner × BodyPart) :=
  (site.operation.requestBody.toList.map fun part =>
    (.requestBody site.path site.method, .requestBody part)) ++
  site.operation.responses.map fun (status, part) =>
    (.response site.path site.method status, .response part)

/-- The bodies and the responses among the components. -/
def Components.bodyParts (c : Components) : List (BodyOwner × BodyPart) :=
  (c.requestBodies.map fun (name, part) => (.sharedRequestBody name, .requestBody part)) ++
  c.responses.map fun (name, part) => (.sharedResponse name, .response part)

def Document.bodyParts (d : Document) : List (BodyOwner × BodyPart) :=
  d.operations.flatMap OperationSite.bodyParts ++ d.allComponents.bodyParts

section Owners

variable {d : Document} {site : OperationSite} {owner : BodyOwner}

theorem OperationSite.operation?_of_mem_bodyParts (listed : owner ∈ site.bodyParts.map Prod.fst) :
    owner.operation? = some (site.path, site.method) := by
  obtain ⟨entry, member, rfl⟩ := List.mem_map.mp listed
  rcases List.mem_append.mp member with body | response
  · obtain ⟨part, -, rfl⟩ := List.mem_map.mp body
    rfl
  · obtain ⟨⟨status, part⟩, -, rfl⟩ := List.mem_map.mp response
    rfl

theorem Components.operation?_of_mem_bodyParts {c : Components}
    (listed : owner ∈ c.bodyParts.map Prod.fst) : owner.operation? = none := by
  obtain ⟨entry, member, rfl⟩ := List.mem_map.mp listed
  rcases List.mem_append.mp member with body | response
  · obtain ⟨⟨name, part⟩, -, rfl⟩ := List.mem_map.mp body
    rfl
  · obtain ⟨⟨name, part⟩, -, rfl⟩ := List.mem_map.mp response
    rfl

/-- Parts that are listed by distinct names have distinct owners. -/
theorem Table.Distinct.nodup_owners {α : Type} {table : Table α} (distinct : table.Distinct)
    {owner : String → BodyOwner} (injective : Function.Injective owner) (part : α → BodyPart) :
    ((table.map fun (name, value) => (owner name, part value)).map Prod.fst).Nodup := by
  have owners : (table.map fun (name, value) => (owner name, part value)).map Prod.fst =
      table.names.map owner := by
    simp [Table.names]
  rw [owners]
  exact List.Nodup.map injective distinct

theorem OperationSite.nodup_bodyParts (distinct : site.operation.Distinct) :
    (site.bodyParts.map Prod.fst).Nodup := by
  unfold OperationSite.bodyParts
  rw [List.map_append]
  refine List.nodup_append.mpr ⟨?_, ?_, ?_⟩
  · cases site.operation.requestBody <;> simp
  · exact distinct.responses.names.nodup_owners (fun one two same => by injection same) _
  · intro one isBody two isResponse same
    simp only [List.map_map, List.mem_map] at isBody isResponse
    obtain ⟨body, -, rfl⟩ := isBody
    obtain ⟨response, -, rfl⟩ := isResponse
    cases same

theorem Components.nodup_bodyParts {c : Components} (distinct : c.Distinct) :
    (c.bodyParts.map Prod.fst).Nodup := by
  unfold Components.bodyParts
  rw [List.map_append]
  refine List.nodup_append.mpr ⟨?_, ?_, ?_⟩
  · exact distinct.requestBodies.names.nodup_owners (fun one two same => by injection same) _
  · exact distinct.responses.names.nodup_owners (fun one two same => by injection same) _
  · intro one isBody two isResponse same
    simp only [List.map_map, List.mem_map] at isBody isResponse
    obtain ⟨body, -, rfl⟩ := isBody
    obtain ⟨response, -, rfl⟩ := isResponse
    cases same

/-- No body or response is listed twice. -/
theorem Document.nodup_bodyParts (distinct : d.Distinct) : (d.bodyParts.map Prod.fst).Nodup := by
  unfold Document.bodyParts
  rw [List.map_append, List.map_flatMap]
  refine List.nodup_append.mpr ⟨List.nodup_flatMap.mpr ⟨?_, ?_⟩, ?_, ?_⟩
  · intro site member
    obtain ⟨entry, declared⟩ := mem_operations.mp member
    exact site.nodup_bodyParts ((distinct.items _ _ entry).operations _ _ declared)
  · refine (d.pairwise_pointer_operations distinct.paths).imp fun differ owner inOne inTwo => ?_
    have one := OperationSite.operation?_of_mem_bodyParts inOne
    have two := OperationSite.operation?_of_mem_bodyParts inTwo
    exact differ (OperationSite.pointer_inj.mpr
      (Prod.mk.inj (Option.some.inj (one.symm.trans two))))
  · exact Components.nodup_bodyParts distinct.allComponents
  · intro owner atOperation other shared same
    obtain ⟨site, -, listed⟩ := List.mem_flatMap.mp atOperation
    have operation := OperationSite.operation?_of_mem_bodyParts listed
    rw [same, Components.operation?_of_mem_bodyParts shared] at operation
    cases operation

end Owners

/-- The schemas in the content of a part. -/
def bodySchemasOf (owner : BodyOwner) (part : BodyPart) : List BodySchema :=
  part.content.filterMap fun (mediaType, media) => media.schema.map (⟨owner, mediaType, ·⟩)

section Pointers

open Pointer (ofKeys)

theorem OperationSite.pointer_requestBody (site : OperationSite) :
    site.pointer ++ "/requestBody" = (BodyOwner.requestBody site.path site.method).pointer := by
  have field : "/requestBody" = "/" ++ "requestBody" := by decide
  rw [site.pointer_eq, field, Pointer.ofKeys_append _ (by decide)]
  rfl

theorem OperationSite.pointer_response (site : OperationSite) (status : String) :
    Pointer.child (site.pointer ++ "/responses") status =
      (BodyOwner.response site.path site.method status).pointer := by
  have field : "/responses" = "/" ++ "responses" := by decide
  rw [site.pointer_eq, field, Pointer.ofKeys_append _ (by decide), Pointer.child_ofKeys]
  rfl

theorem pointer_sharedRequestBody (name : String) :
    Pointer.component "requestBodies" name = (BodyOwner.sharedRequestBody name).pointer :=
  Pointer.component_eq (by decide)

theorem pointer_sharedResponse (name : String) :
    Pointer.component "responses" name = (BodyOwner.sharedResponse name).pointer :=
  Pointer.component_eq (by decide)

theorem BodyOwner.pointer_content (owner : BodyOwner) (mediaType : String) (s : Schema) :
    Pointer.child (owner.pointer ++ "/content") mediaType ++ "/schema" =
      (BodySchema.mk owner mediaType s).pointer := by
  have content : "/content" = "/" ++ "content" := by decide
  have schema : "/schema" = "/" ++ "schema" := by decide
  rw [BodyOwner.pointer, content, Pointer.ofKeys_append _ (by decide), Pointer.child_ofKeys,
    schema, Pointer.ofKeys_append _ (by decide), BodySchema.pointer]
  simp only [List.append_assoc, List.cons_append, List.nil_append]

end Pointers

section Listing

theorem filterMap_inlineContent (owner : BodyOwner) (content : Table MediaType) :
    (inlineContent owner.pointer content).filterMap ofLocated? =
      content.filterMap fun (mediaType, media) => media.schema.map (⟨owner, mediaType, ·⟩) := by
  unfold inlineContent
  rw [List.filterMap_filterMap]
  refine List.filterMap_congr fun entry _ => ?_
  obtain ⟨mediaType, media⟩ := entry
  dsimp only
  cases media.schema with
  | none => rfl
  | some s =>
      rw [Option.map_some, Option.map_some, Option.bind_some, owner.pointer_content mediaType s]
      exact BodySchema.ofLocated?_located _

theorem filterMap_inlineRequestBody (owner : BodyOwner) (part : RefOr RequestBody) :
    (inlinePart inlineRequestBody owner.pointer part).filterMap ofLocated? =
      bodySchemasOf owner (.requestBody part) := by
  cases part with
  | item b => exact filterMap_inlineContent owner b.content
  | ref reference => rfl

theorem filterMap_inlineResponse (owner : BodyOwner) (part : RefOr Response) :
    (inlinePart inlineResponse owner.pointer part).filterMap ofLocated? =
      bodySchemasOf owner (.response part) := by
  cases part with
  | item r => exact filterMap_inlineContent owner r.content
  | ref reference => rfl

/-- Where no body or response can stand, no schema is one of a body or a response. -/
theorem PointsTo.filterMap_eq_nil {keys : List String} {holds : Places}
    {located : List LocatedSchema} (points : PointsTo keys holds located)
    (none : ∀ rest s, holds rest s → BodyOwner.split? (keys ++ rest) = none) :
    located.filterMap ofLocated? = [] := by
  refine List.filterMap_eq_nil_iff.mpr fun entry member => ?_
  obtain ⟨pointer, s⟩ := entry
  obtain ⟨rest, held, rfl⟩ := (points.mem_iff pointer s).mp member
  have outside : BodyOwner.at? (Pointer.ofKeys (keys ++ rest)) = Option.none := by
    rw [BodyOwner.at?, Pointer.keys?_ofKeys, Option.bind_some, none rest s held]
  simp only [ofLocated?, outside]

end Listing

namespace Document

variable {d : Document} {site : OperationSite}

theorem filterMap_pathParameters {path : String} {item : PathItem} (distinct : item.Distinct) :
    (inlineParameters (Pointer.path path) item.parameters).filterMap ofLocated? = [] := by
  rw [Pointer.path_eq]
  refine (pointsTo_inlineParameters distinct.parameters).filterMap_eq_nil fun rest s held => ?_
  obtain ⟨here, inside⟩ := held
  exact BodyOwner.split?_pathParameters path _

theorem filterMap_operationParameters (distinct : site.operation.Distinct) :
    (inlineParameters site.pointer site.operation.parameters).filterMap ofLocated? = [] := by
  rw [site.pointer_eq]
  refine (pointsTo_inlineParameters distinct.parameters).filterMap_eq_nil fun rest s held => ?_
  obtain ⟨here, inside⟩ := held
  exact BodyOwner.split?_operationParameters site.path site.method _

theorem filterMap_sharedParameters {c : Components} (distinct : c.Distinct) :
    (inlineComponents inlineParameter "parameters" c.parameters).filterMap ofLocated? = [] := by
  refine (pointsTo_inlineComponents (by decide) distinct.parameters
    fun _ _ => pointsTo_inlineParameter).filterMap_eq_nil fun rest s held => ?_
  obtain ⟨rest, rfl, -⟩ := held
  exact BodyOwner.split?_sharedParameters rest

theorem filterMap_inlineOperation (distinct : site.operation.Distinct) :
    (inlineOperation site).filterMap ofLocated? =
      site.bodyParts.flatMap fun (owner, part) => bodySchemasOf owner part := by
  unfold inlineOperation OperationSite.bodyParts
  rw [List.filterMap_append, List.filterMap_append, filterMap_operationParameters distinct,
    List.nil_append, List.flatMap_append, List.flatMap_map, List.flatMap_map,
    List.filterMap_flatMap, List.filterMap_flatMap]
  congr 1
  · refine List.flatMap_congr fun part _ => ?_
    rw [site.pointer_requestBody]
    exact filterMap_inlineRequestBody _ part
  · refine List.flatMap_congr ?_
    rintro ⟨status, part⟩ -
    dsimp only
    rw [site.pointer_response]
    exact filterMap_inlineResponse _ part

theorem filterMap_inlineComponents {c : Components} :
    (inlineComponents inlineRequestBody "requestBodies" c.requestBodies ++
        inlineComponents inlineResponse "responses" c.responses).filterMap ofLocated? =
      c.bodyParts.flatMap fun (owner, part) => bodySchemasOf owner part := by
  unfold inlineComponents Components.bodyParts
  rw [List.filterMap_append, List.flatMap_append, List.flatMap_map, List.flatMap_map,
    List.filterMap_flatMap, List.filterMap_flatMap]
  congr 1
  · refine List.flatMap_congr ?_
    rintro ⟨name, part⟩ -
    dsimp only
    rw [pointer_sharedRequestBody]
    exact filterMap_inlineRequestBody _ part
  · refine List.flatMap_congr ?_
    rintro ⟨name, part⟩ -
    dsimp only
    rw [pointer_sharedResponse]
    exact filterMap_inlineResponse _ part

theorem bodySchemas_eq (distinct : d.Distinct) :
    d.bodySchemas = d.bodyParts.flatMap fun (owner, part) => bodySchemasOf owner part := by
  have operations : (d.operations.flatMap inlineOperation).filterMap ofLocated? =
      (d.operations.flatMap OperationSite.bodyParts).flatMap fun (owner, part) =>
        bodySchemasOf owner part := by
    rw [List.filterMap_flatMap, List.flatMap_assoc]
    refine List.flatMap_congr fun site member => filterMap_inlineOperation ?_
    obtain ⟨entry, declared⟩ := mem_operations.mp member
    exact (distinct.items _ _ entry).operations _ _ declared
  unfold bodySchemas inlineSchemas bodyParts
  rw [List.append_assoc, List.filterMap_append, List.filterMap_append, List.filterMap_append,
    operations, filterMap_sharedParameters distinct.allComponents, filterMap_inlineComponents,
    List.append_nil, List.flatMap_append, List.filterMap_flatMap, List.append_assoc]
  refine List.append_left_eq_self.mpr (List.flatMap_eq_nil_iff.mpr fun entry member => ?_)
  exact filterMap_pathParameters (distinct.items _ _ member)

end Document

end ApiReview
