import ApiReview.Proofs.Document.Distinct
import ApiReview.Proofs.Document.InlinePlaces
import Std.Data.String.ToNat

/-!
# Listing the schemas given in place

The list of the schemas given in place points to each of their places once.
Every part lists the places below it, given that the names in its tables are
distinct.
-/

namespace ApiReview

open Pointer (ofKeys)

variable {α β : Type} {keys : List String}

theorem PointsTo.table {t : Table β} {below : β → Places}
    {list : String × β → List LocatedSchema} (distinct : t.Distinct)
    (each : ∀ name b, (name, b) ∈ t → PointsTo (keys ++ [name]) (below b) (list (name, b))) :
    PointsTo keys
      (fun path s => ∃ name b rest, (name, b) ∈ t ∧ path = name :: rest ∧ below b rest s)
      (t.flatMap list) := by
  refine (PointsTo.flatMap 1 (fun entry => [entry.1]) (fun entry => below entry.2) ?_
    (fun _ _ => rfl) (fun entry => each entry.1 entry.2)).congr fun path s => ?_
  · have nested : t.map (fun entry => [entry.1]) = t.names.map ([·]) := by
      simp [Table.names]
    rw [nested]
    exact List.Nodup.map (fun one two same => by simpa using same) distinct
  · constructor
    · rintro ⟨⟨name, b⟩, entry, rest, equal, held⟩
      exact ⟨name, b, rest, entry, equal, held⟩
    · rintro ⟨name, b, rest, entry, equal, held⟩
      exact ⟨(name, b), entry, rest, equal, held⟩

theorem PointsTo.list {items : List β} {below : β → Places}
    {list : β × Nat → List LocatedSchema}
    (each : ∀ index b, items[index]? = some b →
      PointsTo (keys ++ [toString index]) (below b) (list (b, index))) :
    PointsTo keys
      (fun path s => ∃ (index : Nat) (b : β) (rest : List String), items[index]? = some b ∧
        path = toString index :: rest ∧ below b rest s)
      (items.zipIdx.flatMap list) := by
  refine (PointsTo.flatMap 1 (fun entry => [toString entry.2]) (fun entry => below entry.1) ?_
    (fun _ _ => rfl) (fun entry item =>
      each entry.2 entry.1 (List.mem_zipIdx_iff_getElem?.mp item))).congr fun path s => ?_
  · have nested : items.zipIdx.map (fun entry => [toString entry.2]) =
        (List.range' 0 items.length).map fun index => [toString index] := by
      rw [← List.zipIdx_map_snd 0 items, List.map_map]
      rfl
    rw [nested]
    refine List.Nodup.map (fun one two same => ?_) List.nodup_range'
    exact Nat.repr_injective (by simpa using same)
  · constructor
    · rintro ⟨⟨b, index⟩, item, rest, equal, held⟩
      exact ⟨index, b, rest, List.mem_zipIdx_iff_getElem?.mp item, equal, held⟩
    · rintro ⟨index, b, rest, item, equal, held⟩
      exact ⟨(b, index), List.mem_zipIdx_iff_getElem?.mpr item, rest, equal, held⟩

theorem pointsTo_schema (schema : Option Schema) :
    PointsTo keys (fun path s => path = ["schema"] ∧ schema = some s)
      (schema.toList.map (ofKeys keys ++ "/schema", ·)) where
  mem_iff pointer s := by
    have field : ofKeys keys ++ "/schema" = ofKeys (keys ++ ["schema"]) :=
      Pointer.ofKeys_append "schema" (by decide)
    rw [field]
    cases schema with
    | none => simp
    | some given => simp [eq_comm, and_comm]
  nodup := by cases schema <;> simp

theorem pointsTo_inlineContent {content : Table MediaType} (distinct : content.Distinct) :
    PointsTo keys (ContentHolds content) (inlineContent (ofKeys keys) content) := by
  have field : ofKeys keys ++ "/content" = ofKeys (keys ++ ["content"]) :=
    Pointer.ofKeys_append "content" (by decide)
  have listed : inlineContent (ofKeys keys) content =
      content.flatMap fun entry => entry.2.schema.toList.map
        (ofKeys (keys ++ ["content"] ++ [entry.1]) ++ "/schema", ·) := by
    unfold inlineContent
    rw [List.filterMap_eq_flatMap_toList, field]
    refine List.flatMap_congr fun entry _ => ?_
    dsimp only
    rw [Pointer.child_ofKeys]
    cases entry.2.schema <;> rfl
  rw [listed]
  refine ((PointsTo.table distinct fun mediaType media _ =>
    pointsTo_schema media.schema).under _).congr fun path s => ?_
  constructor
  · rintro ⟨rest, rfl, mediaType, media, _, entry, rfl, rfl, given⟩
    exact .media entry given
  · rintro ⟨entry, given⟩
    exact ⟨_, rfl, _, _, _, entry, rfl, rfl, given⟩

theorem ContentHolds.head {content : Table MediaType} {s : Schema}
    (inside : ContentHolds content keys s) : keys.head? = some "content" := by
  cases inside
  rfl

theorem pointsTo_inlineRequestBody {b : RequestBody} (distinct : b.Distinct) :
    PointsTo keys b.Holds (inlineRequestBody (ofKeys keys) b) :=
  pointsTo_inlineContent distinct

theorem pointsTo_inlineResponse {r : Response} (distinct : r.Distinct) :
    PointsTo keys r.Holds (inlineResponse (ofKeys keys) r) :=
  pointsTo_inlineContent distinct

theorem pointsTo_inlineParameter {p : Parameter} (distinct : p.Distinct) :
    PointsTo keys p.Holds (inlineParameter (ofKeys keys) p) := by
  refine ((pointsTo_schema p.schema).append (pointsTo_inlineContent distinct) ?_).congr
    fun path s => ?_
  · rintro _ s s' ⟨rfl, -⟩ inside
    simpa using inside.head
  · constructor
    · rintro (⟨rfl, given⟩ | inside)
      · exact .schema given
      · exact .content inside
    · rintro (given | inside)
      · exact Or.inl ⟨rfl, given⟩
      · exact Or.inr inside

/-- A part given by reference is passed over. -/
theorem pointsTo_inlinePart {holds : α → Places} {property : α → Prop} {part : RefOr α}
    {list : String → α → List LocatedSchema} (inPlace : part.InPlace property)
    (each : ∀ value, property value → PointsTo keys (holds value) (list (ofKeys keys) value)) :
    PointsTo keys (PartHolds holds part) (inlinePart list (ofKeys keys) part) := by
  cases part with
  | item value =>
      refine (each value (inPlace value rfl)).congr fun path s => ?_
      constructor
      · exact .item
      · rintro ⟨inside⟩
        exact inside
  | ref reference =>
      refine .nil fun path s held => ?_
      cases held

theorem pointsTo_inlineParameters {parameters : List (RefOr Parameter)}
    (distinct : ∀ part ∈ parameters, part.InPlace Parameter.Distinct) :
    PointsTo keys (ParametersHold parameters) (inlineParameters (ofKeys keys) parameters) := by
  have field (index : Nat) : ofKeys keys ++ "/parameters/" ++ toString index =
      ofKeys (keys ++ ["parameters"] ++ [toString index]) := by
    have literal : "/parameters/" = "/" ++ "parameters" ++ "/" := by decide
    rw [← Pointer.ofKeys_append_index (by decide), literal]
    simp only [String.append_assoc]
  unfold inlineParameters
  simp only [field]
  refine ((PointsTo.list fun index part item => pointsTo_inlinePart
    (distinct part (List.mem_of_getElem? item))
    fun p distinct => pointsTo_inlineParameter distinct).under _).congr fun path s => ?_
  constructor
  · rintro ⟨rest, rfl, index, part, _, item, rfl, inside⟩
    exact .item item inside
  · rintro ⟨item, inside⟩
    exact ⟨_, rfl, _, _, _, item, rfl, inside⟩

theorem pointsTo_table {holds : α → Places} {property : α → Prop} {table : Table (RefOr α)}
    {list : String → α → List LocatedSchema} (distinct : table.PartsDistinct property)
    (each : ∀ (keys : List String) value, property value →
      PointsTo keys (holds value) (list (ofKeys keys) value)) :
    PointsTo keys (TableHolds holds table)
      (table.flatMap fun (name, part) =>
        inlinePart list (Pointer.child (ofKeys keys) name) part) := by
  simp only [Pointer.child_ofKeys]
  refine (PointsTo.table distinct.names fun name part entry =>
    pointsTo_inlinePart (distinct.parts name part entry) (each _)).congr fun path s => ?_
  constructor
  · rintro ⟨name, part, _, entry, rfl, inside⟩
    exact .entry entry inside
  · rintro ⟨entry, inside⟩
    exact ⟨_, _, _, entry, rfl, inside⟩

theorem ParametersHold.head {parameters : List (RefOr Parameter)} {s : Schema}
    (inside : ParametersHold parameters keys s) : keys.head? = some "parameters" := by
  cases inside
  rfl

theorem pointsTo_requestBody {body : Option (RefOr RequestBody)}
    (distinct : ∀ part, body = some part → part.InPlace RequestBody.Distinct) :
    PointsTo keys
      (fun path s => ∃ rest, path = ["requestBody"] ++ rest ∧
        ∃ part, body = some part ∧ PartHolds RequestBody.Holds part rest s)
      (body.toList.flatMap (inlinePart inlineRequestBody (ofKeys keys ++ "/requestBody"))) := by
  have field : ofKeys keys ++ "/requestBody" = ofKeys (keys ++ ["requestBody"]) :=
    Pointer.ofKeys_append "requestBody" (by decide)
  rw [field]
  refine PointsTo.under _ ?_
  cases body with
  | none => exact .nil (by simp)
  | some part =>
      rw [Option.toList_some, List.flatMap_singleton]
      refine (pointsTo_inlinePart (distinct part rfl) fun _ =>
        pointsTo_inlineRequestBody).congr fun path s => ?_
      simp

theorem pointsTo_inlineOperation {site : OperationSite} (pointer : site.pointer = ofKeys keys)
    (distinct : site.operation.Distinct) :
    PointsTo keys site.operation.Holds (inlineOperation site) := by
  have field : ofKeys keys ++ "/responses" = ofKeys (keys ++ ["responses"]) :=
    Pointer.ofKeys_append "responses" (by decide)
  have responses := PointsTo.under _
    (pointsTo_table distinct.responses fun _ _ => pointsTo_inlineResponse :
      PointsTo (keys ++ ["responses"]) _ _)
  unfold inlineOperation
  rw [pointer, field]
  refine (((pointsTo_inlineParameters distinct.parameters).append
    (pointsTo_requestBody distinct.requestBody) ?_).append responses ?_).congr fun path s => ?_
  · rintro path s s' inside ⟨rest, rfl, -⟩
    simpa using inside.head
  · rintro path s s' (inside | ⟨rest, rfl, -⟩) ⟨rest', equal, -⟩
    · subst equal
      simpa using inside.head
    · simp at equal
  · constructor
    · rintro ((inside | ⟨rest, rfl, part, given, inside⟩) | ⟨rest, rfl, inside⟩)
      · exact .parameter inside
      · exact .requestBody given inside
      · exact .response inside
    · rintro (inside | ⟨given, inside⟩ | inside)
      · exact Or.inl (Or.inl inside)
      · exact Or.inl (Or.inr ⟨_, rfl, _, given, inside⟩)
      · exact Or.inr ⟨_, rfl, inside⟩

namespace PathItem

variable {item : PathItem} {method : Method} {o : Operation}

theorem mem_operations : (method, o) ∈ item.operations ↔ item.operation? method = some o := by
  unfold operations
  rw [List.mem_filterMap]
  constructor
  · rintro ⟨other, -, equal⟩
    obtain ⟨declared, found, same⟩ := Option.map_eq_some_iff.mp equal
    cases same
    exact found
  · intro found
    exact ⟨method, method.mem_all, by rw [found, Option.map_some]⟩

theorem nodup_operations (item : PathItem) : (item.operations.map Prod.fst).Nodup := by
  have sublist : (item.operations.map Prod.fst).Sublist Method.all := by
    unfold operations
    generalize Method.all = methods
    induction methods with
    | nil => exact List.Sublist.refl []
    | cons method rest ih =>
        rw [List.filterMap_cons]
        cases item.operation? method with
        | none => exact ih.cons method
        | some o => exact ih.cons_cons method
  exact List.Nodup.sublist sublist (by decide)

end PathItem

theorem Method.name_injective : Function.Injective Method.name := by
  intro one two same
  cases one <;> cases two <;> first | rfl | exact absurd same (by decide)

theorem Method.plain_name (method : Method) : Pointer.Plain method.name := by
  cases method <;> decide

theorem OperationSite.pointer_eq (site : OperationSite) :
    site.pointer = ofKeys ["paths", site.path, site.method.name] := by
  rw [OperationSite.pointer, Pointer.path_eq, String.append_assoc,
    Pointer.ofKeys_append _ site.method.plain_name]
  rfl

theorem OperationSite.pointer_inj {one two : OperationSite} :
    one.pointer = two.pointer ↔ one.path = two.path ∧ one.method = two.method := by
  rw [pointer_eq, pointer_eq, Pointer.ofKeys_inj]
  simp [Method.name_injective.eq_iff]

theorem Document.mem_operations {d : Document} {site : OperationSite} :
    site ∈ d.operations ↔ (site.path, site.item) ∈ d.paths ∧
      site.item.operation? site.method = some site.operation := by
  unfold Document.operations
  rw [List.mem_flatMap]
  constructor
  · rintro ⟨⟨path, item⟩, entry, listed⟩
    obtain ⟨⟨method, o⟩, member, rfl⟩ := List.mem_map.mp listed
    exact ⟨entry, PathItem.mem_operations.mp member⟩
  · rintro ⟨entry, declared⟩
    exact ⟨_, entry, List.mem_map.mpr ⟨_, PathItem.mem_operations.mpr declared, rfl⟩⟩

/-- Operations of different paths, or of different methods, have different pointers. -/
theorem Document.pairwise_pointer_operations {d : Document} (distinct : d.paths.Distinct) :
    d.operations.Pairwise fun one two => one.pointer ≠ two.pointer := by
  unfold Document.operations
  refine List.pairwise_flatMap.mpr ⟨?_, ?_⟩
  · rintro ⟨path, item⟩ -
    have methods := List.pairwise_map.mp item.nodup_operations
    refine List.pairwise_map.mpr (methods.imp fun differ same => ?_)
    exact differ (OperationSite.pointer_inj.mp same).2
  · refine (List.pairwise_map.mp distinct).imp fun differ one oneMember two twoMember => ?_
    obtain ⟨-, -, rfl⟩ := List.mem_map.mp oneMember
    obtain ⟨-, -, rfl⟩ := List.mem_map.mp twoMember
    exact fun same => differ (OperationSite.pointer_inj.mp same).1

/-- The schemas of a path item, those of its operations after its own. -/
def inlineItem (path : String) (item : PathItem) : List LocatedSchema :=
  inlineParameters (ofKeys ["paths", path]) item.parameters ++
    item.operations.flatMap fun (method, operation) =>
      inlineOperation ⟨path, item, method, operation⟩

theorem pointsTo_inlineItem (path : String) {item : PathItem} (distinct : item.Distinct) :
    PointsTo ["paths", path] item.Holds (inlineItem path item) := by
  refine ((pointsTo_inlineParameters distinct.parameters).append
    (PointsTo.flatMap 1 (fun (method, _) => [method.name]) (fun (_, o) => o.Holds) ?_
      (fun _ _ => rfl) ?_) ?_).congr fun path s => ?_
  · have nested : item.operations.map (fun (method, _) => [method.name]) =
        (item.operations.map Prod.fst).map fun method => [method.name] := by simp
    rw [nested]
    refine List.Nodup.map (fun one two same => ?_) item.nodup_operations
    exact Method.name_injective (by simpa using same)
  · rintro ⟨method, o⟩ member
    have declared := PathItem.mem_operations.mp member
    exact pointsTo_inlineOperation (OperationSite.pointer_eq ⟨path, item, method, o⟩)
      (distinct.operations method o declared)
  · rintro path s s' inside ⟨⟨method, o⟩, -, rest, rfl, -⟩
    cases method <;> simpa [Method.name] using inside.head
  · constructor
    · rintro (inside | ⟨⟨method, o⟩, member, rest, rfl, inside⟩)
      · exact .parameter inside
      · exact .operation (PathItem.mem_operations.mp member) inside
    · rintro (inside | ⟨declared, inside⟩)
      · exact Or.inl inside
      · exact Or.inr ⟨(_, _), PathItem.mem_operations.mpr declared, _, rfl, inside⟩

theorem pointsTo_inlineComponents {holds : α → Places} {property : α → Prop} {sort : String}
    {table : Table (RefOr α)} {list : String → α → List LocatedSchema}
    (plain : Pointer.Plain sort) (distinct : table.PartsDistinct property)
    (each : ∀ (keys : List String) value, property value →
      PointsTo keys (holds value) (list (ofKeys keys) value)) :
    PointsTo ["components"] (fun path s => ∃ rest, path = [sort] ++ rest ∧
        TableHolds holds table rest s) (inlineComponents list sort table) := by
  unfold inlineComponents
  have pointer (name : String) : Pointer.component sort name =
      Pointer.child (ofKeys (["components"] ++ [sort])) name := by
    rw [Pointer.component_eq plain, Pointer.child_ofKeys]
    rfl
  simp only [pointer]
  exact (pointsTo_table distinct each).under _

theorem pointsTo_components {c : Components} (distinct : c.Distinct) :
    PointsTo ["components"] c.Holds
      (inlineComponents inlineParameter "parameters" c.parameters ++
        inlineComponents inlineRequestBody "requestBodies" c.requestBodies ++
        inlineComponents inlineResponse "responses" c.responses) := by
  refine (((pointsTo_inlineComponents (by decide) distinct.parameters
    fun _ _ => pointsTo_inlineParameter).append
    (pointsTo_inlineComponents (by decide) distinct.requestBodies
      fun _ _ => pointsTo_inlineRequestBody) ?_).append
    (pointsTo_inlineComponents (by decide) distinct.responses
      fun _ _ => pointsTo_inlineResponse) ?_).congr fun path s => ?_
  · rintro path s s' ⟨rest, rfl, -⟩ ⟨rest', equal, -⟩
    simp at equal
  · rintro path s s' (⟨rest, rfl, -⟩ | ⟨rest, rfl, -⟩) ⟨rest', equal, -⟩ <;> simp at equal
  · constructor
    · rintro ((⟨rest, rfl, inside⟩ | ⟨rest, rfl, inside⟩) | ⟨rest, rfl, inside⟩)
      · exact .parameter inside
      · exact .requestBody inside
      · exact .response inside
    · rintro (inside | inside | inside)
      · exact Or.inl (Or.inl ⟨_, rfl, inside⟩)
      · exact Or.inl (Or.inr ⟨_, rfl, inside⟩)
      · exact Or.inr ⟨_, rfl, inside⟩

/-- The operations are listed after all path items, which changes the order of
the schemas only. -/
theorem perm_inlineItems (d : Document) :
    (d.paths.flatMap fun (path, item) => inlineItem path item).Perm
      (d.paths.flatMap (fun (path, item) => inlineParameters (Pointer.path path) item.parameters) ++
        d.operations.flatMap inlineOperation) := by
  unfold Document.operations inlineItem
  rw [List.flatMap_assoc]
  simp only [List.flatMap_map, Pointer.path_eq]
  exact (List.flatMap_append_perm d.paths _ _).symm

/-- The list of the schemas given in place points to each place once. -/
theorem Document.pointsTo_inlineSchemas {d : Document} (distinct : d.Distinct) :
    PointsTo [] d.Holds d.inlineSchemas := by
  have items : PointsTo ["paths"] _ (d.paths.flatMap fun (path, item) => inlineItem path item) :=
    .table distinct.paths fun path item entry =>
      pointsTo_inlineItem path (distinct.items path item entry)
  have paths : PointsTo [] _ (d.paths.flatMap _ ++ d.operations.flatMap _) :=
    PointsTo.perm (.under ["paths"] items) (perm_inlineItems d)
  have components : PointsTo [] _ _ :=
    .under ["components"] (pointsTo_components distinct.allComponents)
  have listed := (paths.append components (by
    rintro path s s' ⟨rest, rfl, -⟩ ⟨rest', equal, -⟩
    simp at equal))
  simp only [← List.append_assoc] at listed
  refine listed.congr fun path s => ?_
  constructor
  · rintro (⟨rest, rfl, name, item, _, entry, rfl, inside⟩ | ⟨rest, rfl, inside⟩)
    · exact .path entry inside
    · exact .component inside
  · rintro (⟨entry, inside⟩ | inside)
    · exact Or.inl ⟨_, rfl, _, _, _, entry, rfl, inside⟩
    · exact Or.inr ⟨_, rfl, inside⟩

end ApiReview
