import ApiReview.Proofs.Document.InlineListing

/-!
# Request bodies and responses by their pointers

A request body or a response belongs to an operation or is shared among the components.
Everything that is said about it stands below its pointer, so the pointer of a schema tells
whether it is the schema of a body or a response, and of which.
-/

namespace ApiReview

open Pointer (ofKeys)

/-- The method with a name. -/
def Method.ofName? (name : String) : Option Method :=
  Method.all.find? (·.name == name)

@[simp]
theorem Method.ofName?_name (method : Method) : Method.ofName? method.name = some method := by
  cases method <;> decide

theorem Method.name_of_ofName? {name : String} {method : Method}
    (found : Method.ofName? name = some method) : method.name = name := by
  have same := List.find?_some found
  exact eq_of_beq same

/-- Where a request body or a response stands: at an operation or among the components. -/
inductive BodyOwner where
  | requestBody (path : String) (method : Method)
  | response (path : String) (method : Method) (status : String)
  | sharedRequestBody (name : String)
  | sharedResponse (name : String)
deriving DecidableEq

namespace BodyOwner

def keys : BodyOwner → List String
  | requestBody path method => ["paths", path, method.name, "requestBody"]
  | response path method status => ["paths", path, method.name, "responses", status]
  | sharedRequestBody name => ["components", "requestBodies", name]
  | sharedResponse name => ["components", "responses", name]

def pointer (owner : BodyOwner) : String :=
  ofKeys owner.keys

/-- The path and the method of the operation, unless it stands among the components. -/
def operation? : BodyOwner → Option (String × Method)
  | requestBody path method | response path method _ => some (path, method)
  | sharedRequestBody _ | sharedResponse _ => none

def isShared (owner : BodyOwner) : Bool :=
  owner.operation?.isNone

/-- The body or response below which some keys lead, and the rest of the keys. -/
def split? : List String → Option (BodyOwner × List String)
  | "paths" :: path :: method :: "requestBody" :: rest =>
    (Method.ofName? method).map fun method => (requestBody path method, rest)
  | "paths" :: path :: method :: "responses" :: status :: rest =>
    (Method.ofName? method).map fun method => (response path method status, rest)
  | "components" :: "requestBodies" :: name :: rest => some (sharedRequestBody name, rest)
  | "components" :: "responses" :: name :: rest => some (sharedResponse name, rest)
  | _ => none

/-- The body or response below which a pointer leads, and the rest of the keys. -/
def at? (pointer : String) : Option (BodyOwner × List String) :=
  (Pointer.keys? pointer).bind split?

variable {owner : BodyOwner} {keys rest : List String}

theorem split?_eq_some_iff : split? keys = some (owner, rest) ↔ keys = owner.keys ++ rest := by
  constructor
  · intro found
    unfold split? at found
    split at found
    · obtain ⟨method, named, equal⟩ := Option.map_eq_some_iff.mp found
      obtain ⟨rfl, rfl⟩ := Prod.mk.inj equal
      obtain rfl := Method.name_of_ofName? named
      rfl
    · obtain ⟨method, named, equal⟩ := Option.map_eq_some_iff.mp found
      obtain ⟨rfl, rfl⟩ := Prod.mk.inj equal
      obtain rfl := Method.name_of_ofName? named
      rfl
    · obtain ⟨rfl, rfl⟩ := Prod.mk.inj (Option.some.inj found)
      rfl
    · obtain ⟨rfl, rfl⟩ := Prod.mk.inj (Option.some.inj found)
      rfl
    · cases found
  · rintro rfl
    cases owner <;> simp [BodyOwner.keys, split?]

theorem at?_ofKeys : at? (ofKeys keys) = some (owner, rest) ↔ keys = owner.keys ++ rest := by
  rw [at?, Pointer.keys?_ofKeys, Option.bind_some, split?_eq_some_iff]

/-- No body or response stands among the parameters of a path item. -/
theorem split?_pathParameters (path : String) (rest : List String) :
    split? ("paths" :: path :: "parameters" :: rest) = none := by
  have noMethod : Method.ofName? "parameters" = none := by decide
  unfold split?
  split <;> simp_all

theorem split?_operationParameters (path : String) (method : Method) (rest : List String) :
    split? ("paths" :: path :: method.name :: "parameters" :: rest) = none := by
  unfold split?
  split <;> simp_all

theorem split?_sharedParameters (rest : List String) :
    split? ("components" :: "parameters" :: rest) = none :=
  rfl

end BodyOwner

/-- A schema in the content of a request body or a response. -/
structure BodySchema where
  owner : BodyOwner
  mediaType : String
  schema : Schema

namespace BodySchema

def pointer (b : BodySchema) : String :=
  ofKeys (b.owner.keys ++ ["content", b.mediaType, "schema"])

def located (b : BodySchema) : LocatedSchema :=
  (b.pointer, b.schema)

/-- The schema as one of a body or a response, if its pointer says so. -/
def ofLocated? (located : LocatedSchema) : Option BodySchema :=
  match BodyOwner.at? located.1 with
  | some (owner, ["content", mediaType, "schema"]) => some ⟨owner, mediaType, located.2⟩
  | _ => none

variable {b : BodySchema} {keys : List String} {s : Schema}

theorem ofLocated?_eq_some_iff :
    ofLocated? (ofKeys keys, s) = some b ↔ (ofKeys keys, s) = b.located := by
  rw [located, Prod.mk.injEq, pointer, Pointer.ofKeys_inj, ← BodyOwner.at?_ofKeys]
  unfold ofLocated?
  constructor
  · intro found
    split at found
    next owner mediaType parsed =>
      obtain rfl := Option.some.inj found
      exact ⟨parsed, rfl⟩
    · cases found
  · rintro ⟨parsed, rfl⟩
    simp only [parsed]

@[simp]
theorem ofLocated?_located (b : BodySchema) : ofLocated? b.located = some b :=
  ofLocated?_eq_some_iff.mpr rfl

end BodySchema

/-- The schemas given in place that are those of request bodies and responses. -/
def Document.bodySchemas (d : Document) : List BodySchema :=
  d.inlineSchemas.filterMap BodySchema.ofLocated?

namespace Document

open BodySchema (ofLocated?)

variable {d : Document}

theorem map_located_bodySchemas (distinct : d.Distinct) :
    d.bodySchemas.map BodySchema.located =
      d.inlineSchemas.filter fun located => (ofLocated? located).isSome := by
  rw [bodySchemas, List.map_filterMap, ← List.filterMap_eq_filter]
  refine List.filterMap_congr fun located member => ?_
  obtain ⟨pointer, s⟩ := located
  obtain ⟨keys, -, rfl⟩ := ((pointsTo_inlineSchemas distinct).mem_iff pointer s).mp member
  rw [List.nil_append]
  cases found : ofLocated? (ofKeys keys, s) with
  | none => simp [Option.guard, found]
  | some b => simp [Option.guard, BodySchema.ofLocated?_eq_some_iff.mp found]

theorem mem_bodySchemas (distinct : d.Distinct) {b : BodySchema} :
    b ∈ d.bodySchemas ↔ (b.pointer, b.schema) ∈ d.inlineSchemas := by
  constructor
  · intro member
    have listed := List.mem_map_of_mem (f := BodySchema.located) member
    rw [map_located_bodySchemas distinct] at listed
    exact List.mem_of_mem_filter listed
  · intro member
    exact List.mem_filterMap.mpr ⟨b.located, member, b.ofLocated?_located⟩

theorem nodup_pointer_bodySchemas (distinct : d.Distinct) :
    (d.bodySchemas.map BodySchema.pointer).Nodup := by
  have pointers : d.bodySchemas.map BodySchema.pointer =
      (d.bodySchemas.map BodySchema.located).map Prod.fst := by
    rw [List.map_map]
    rfl
  rw [pointers, map_located_bodySchemas distinct]
  exact (pointsTo_inlineSchemas distinct).nodup.sublist (List.filter_sublist.map Prod.fst)

end Document

end ApiReview
