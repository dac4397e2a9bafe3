import ApiReview.Document.Inline
import ApiReview.Proofs.Document.Pointers
import ApiReview.Proofs.Table
import Mathlib.Data.List.Perm.Lattice
import Mathlib.Data.List.Perm.Subperm

/-!
# Places of schemas given in place

Every part of a document holds its schemas below some keys: the names of fields,
the indices of items and the names of table entries on the way from the part to
the schema.  A part given by reference holds none.  The list of the schemas
given in place is compared with these places: it points to each place once.
-/

namespace ApiReview

/-- The places at which a part holds schemas: keys and the schema below them. -/
abbrev Places := List String → Schema → Prop

variable {α : Type}

/-- A part given in place holds what its value holds. -/
inductive PartHolds (holds : α → Places) : RefOr α → Places
  | item {value : α} {keys : List String} {s : Schema} (inside : holds value keys s) :
      PartHolds holds (.item value) keys s

/-- Content holds the schema of every media type. -/
inductive ContentHolds (content : Table MediaType) : Places
  | media {mediaType : String} {media : MediaType} {s : Schema}
      (entry : (mediaType, media) ∈ content) (given : media.schema = some s) :
      ContentHolds content ["content", mediaType, "schema"] s

/-- A parameter holds a schema of its own and those of its content. -/
inductive Parameter.Holds (p : Parameter) : Places
  | schema {s : Schema} (given : p.schema = some s) : Holds p ["schema"] s
  | content {keys : List String} {s : Schema} (inside : ContentHolds p.content keys s) :
      Holds p keys s

/-- A request body holds the schemas of its content. -/
def RequestBody.Holds (b : RequestBody) : Places :=
  ContentHolds b.content

/-- A response holds the schemas of its content. -/
def Response.Holds (r : Response) : Places :=
  ContentHolds r.content

/-- A list of parameters holds what its items hold. -/
inductive ParametersHold (parameters : List (RefOr Parameter)) : Places
  | item {index : Nat} {part : RefOr Parameter} {keys : List String} {s : Schema}
      (item : parameters[index]? = some part) (inside : PartHolds Parameter.Holds part keys s) :
      ParametersHold parameters ("parameters" :: toString index :: keys) s

/-- A table of parts holds, below each name, what its part holds. -/
inductive TableHolds (holds : α → Places) (table : Table (RefOr α)) : Places
  | entry {name : String} {part : RefOr α} {keys : List String} {s : Schema}
      (entry : (name, part) ∈ table) (inside : PartHolds holds part keys s) :
      TableHolds holds table (name :: keys) s

/-- An operation holds the schemas of its parameters, body and responses. -/
inductive Operation.Holds (o : Operation) : Places
  | parameter {keys : List String} {s : Schema} (inside : ParametersHold o.parameters keys s) :
      Holds o keys s
  | requestBody {part : RefOr RequestBody} {keys : List String} {s : Schema}
      (given : o.requestBody = some part) (inside : PartHolds RequestBody.Holds part keys s) :
      Holds o ("requestBody" :: keys) s
  | response {keys : List String} {s : Schema}
      (inside : TableHolds Response.Holds o.responses keys s) :
      Holds o ("responses" :: keys) s

/-- A path item holds the schemas of its parameters and, below each method,
those of the operation. -/
inductive PathItem.Holds (item : PathItem) : Places
  | parameter {keys : List String} {s : Schema}
      (inside : ParametersHold item.parameters keys s) : Holds item keys s
  | operation {method : Method} {o : Operation} {keys : List String} {s : Schema}
      (declared : item.operation? method = some o) (inside : o.Holds keys s) :
      Holds item (method.name :: keys) s

/-- The components hold the schemas of parameters, bodies and responses. -/
inductive Components.Holds (c : Components) : Places
  | parameter {keys : List String} {s : Schema}
      (inside : TableHolds Parameter.Holds c.parameters keys s) :
      Holds c ("parameters" :: keys) s
  | requestBody {keys : List String} {s : Schema}
      (inside : TableHolds RequestBody.Holds c.requestBodies keys s) :
      Holds c ("requestBodies" :: keys) s
  | response {keys : List String} {s : Schema}
      (inside : TableHolds Response.Holds c.responses keys s) :
      Holds c ("responses" :: keys) s

/-- A document holds the schemas given in place of its path items and of its
components. -/
inductive Document.Holds (d : Document) : Places
  | path {path : String} {item : PathItem} {keys : List String} {s : Schema}
      (entry : (path, item) ∈ d.paths) (inside : item.Holds keys s) :
      Holds d ("paths" :: path :: keys) s
  | component {keys : List String} {s : Schema} (inside : d.allComponents.Holds keys s) :
      Holds d ("components" :: keys) s

/-- A list points to each of some places below the given keys once. -/
structure PointsTo (keys : List String) (holds : Places) (located : List LocatedSchema) :
    Prop where
  mem_iff : ∀ pointer s, (pointer, s) ∈ located ↔
    ∃ rest, holds rest s ∧ pointer = Pointer.ofKeys (keys ++ rest)
  nodup : (located.map Prod.fst).Nodup

namespace PointsTo

variable {keys : List String} {holds other : Places} {first second located : List LocatedSchema}

theorem congr (points : PointsTo keys holds located)
    (same : ∀ rest s, holds rest s ↔ other rest s) : PointsTo keys other located := by
  have equal : holds = other := by
    funext rest s
    exact propext (same rest s)
  exact equal ▸ points

theorem nil (none : ∀ rest s, ¬holds rest s) : PointsTo keys holds [] :=
  ⟨by simp [none], List.nodup_nil⟩

theorem perm (points : PointsTo keys holds first) (perm : first.Perm second) :
    PointsTo keys holds second where
  mem_iff pointer s := by rw [← perm.mem_iff, points.mem_iff]
  nodup := (perm.map Prod.fst).nodup_iff.mp points.nodup

theorem exists_of_mem_pointers (points : PointsTo keys holds located) {pointer : String}
    (member : pointer ∈ located.map Prod.fst) :
    ∃ rest s, holds rest s ∧ pointer = Pointer.ofKeys (keys ++ rest) := by
  obtain ⟨⟨pointer, s⟩, entry, rfl⟩ := List.mem_map.mp member
  obtain ⟨rest, held, equal⟩ := (points.mem_iff pointer s).mp entry
  exact ⟨rest, s, held, equal⟩

/-- Two lists that point to different places may follow each other. -/
theorem append (one : PointsTo keys holds first) (two : PointsTo keys other second)
    (differ : ∀ rest s s', holds rest s → ¬other rest s') :
    PointsTo keys (fun rest s => holds rest s ∨ other rest s) (first ++ second) where
  mem_iff pointer s := by
    rw [List.mem_append, one.mem_iff, two.mem_iff, ← exists_or]
    simp only [or_and_right]
  nodup := by
    rw [List.map_append]
    refine List.Nodup.append one.nodup two.nodup ?_
    intro pointer inFirst inSecond
    obtain ⟨rest, s, held, equal⟩ := one.exists_of_mem_pointers inFirst
    obtain ⟨rest', s', held', equal'⟩ := two.exists_of_mem_pointers inSecond
    have same : rest = rest' := by
      have := Pointer.ofKeys_inj.mp (equal.symm.trans equal')
      exact List.append_cancel_left this
    exact differ rest s s' held (same ▸ held')

/-- The lists of several items may follow each other when the items stand below
different keys, equally far on. -/
theorem flatMap {items : List α} {list : α → List LocatedSchema} (width : Nat)
    (stretch : α → List String) (below : α → Places)
    (distinct : (items.map stretch).Nodup)
    (even : ∀ item ∈ items, (stretch item).length = width)
    (each : ∀ item ∈ items, PointsTo (keys ++ stretch item) (below item) (list item)) :
    PointsTo keys
      (fun path s => ∃ item ∈ items, ∃ rest, path = stretch item ++ rest ∧ below item rest s)
      (items.flatMap list) where
  mem_iff pointer s := by
    rw [List.mem_flatMap]
    constructor
    · rintro ⟨item, member, listed⟩
      obtain ⟨rest, held, rfl⟩ := ((each item member).mem_iff pointer s).mp listed
      exact ⟨stretch item ++ rest, ⟨item, member, rest, rfl, held⟩, by rw [List.append_assoc]⟩
    · rintro ⟨path, ⟨item, member, rest, rfl, held⟩, rfl⟩
      exact ⟨item, member, ((each item member).mem_iff _ s).mpr
        ⟨rest, held, by rw [List.append_assoc]⟩⟩
  nodup := by
    rw [List.map_flatMap, List.nodup_flatMap]
    refine ⟨fun item member => (each item member).nodup, ?_⟩
    refine List.Pairwise.imp_of_mem ?_ (List.pairwise_map.mp distinct)
    intro one two oneMember twoMember differ pointer inOne inTwo
    obtain ⟨rest, s, -, equal⟩ := (each one oneMember).exists_of_mem_pointers inOne
    obtain ⟨rest', s', -, equal'⟩ := (each two twoMember).exists_of_mem_pointers inTwo
    have same := Pointer.ofKeys_inj.mp (equal.symm.trans equal')
    rw [List.append_assoc, List.append_assoc] at same
    exact differ (List.append_inj_left (List.append_cancel_left same)
      ((even one oneMember).trans (even two twoMember).symm))

theorem under (stretch : List String) (points : PointsTo (keys ++ stretch) holds located) :
    PointsTo keys (fun path s => ∃ rest, path = stretch ++ rest ∧ holds rest s) located where
  mem_iff pointer s := by
    rw [points.mem_iff]
    constructor
    · rintro ⟨rest, held, rfl⟩
      exact ⟨stretch ++ rest, ⟨rest, rfl, held⟩, by rw [List.append_assoc]⟩
    · rintro ⟨path, ⟨rest, rfl, held⟩, rfl⟩
      exact ⟨rest, held, by rw [List.append_assoc]⟩
  nodup := points.nodup

end PointsTo

end ApiReview
