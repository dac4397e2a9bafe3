import ApiReview.Proofs.Document.SchemaReading
import ApiReview.Review.Review

/-!
# Documents are read back

Printing a document that was read from a JSON value, and reading what was printed,
gives the document itself.  Its parts are printed as objects with all of their
fields; as no such object has a field `$ref`, a part that was given in place is
never taken for a reference.
-/

namespace ApiReview

open ApiReview.Field (Reads)
open ApiReview.FromUntyped (Yields tracking)
open Json (Value)
open Untyped (FromJson closed_fitting)

variable {α : Type} {read : Nat → FromUntyped α} {print : α → Value}

section RefOr

theorem FromUntyped.readEntries_unknown {σ : Type} {fields : List (Field FromUntyped σ)}
    {members : Table Value} {given : List String} {s : σ}
    (unknown : ∀ field ∈ fields, field.name ∉ members.names) :
    readEntries fields (Untyped.ofJsonMembers members) given s = .ok (given, s) := by
  induction members with
  | nil => rfl
  | cons entry rest ih =>
      obtain ⟨name, v⟩ := entry
      have none : fields.find? (·.name == name) = none := by
        refine List.find?_eq_none.mpr fun field member same => ?_
        have equal : field.name = name := by simpa using same
        exact unknown field member (equal ▸ List.mem_cons_self)
      have others : ∀ field ∈ fields, field.name ∉ Table.names rest := fun field member inside =>
        unknown field member (List.mem_cons_of_mem _ inside)
      rw [Untyped.ofJsonMembers, readEntries, fieldOf, none]
      exact ih others

/-- An object without a field `$ref` is no reference. -/
theorem readReference_error {members : Table Value} (none : "$ref" ∉ members.names) :
    ∃ complaint, readReference (.ofJson (.object members)) = .error complaint := by
  let field : Field FromUntyped String := .needed "$ref" Format.text fun v _ => v
  have entries : FromUntyped.readEntries [field] (Untyped.ofJsonMembers members) [] "" =
      .ok ([], "") :=
    FromUntyped.readEntries_unknown (List.forall_mem_singleton.mpr none)
  refine ⟨.missingField "$ref", ?_⟩
  change FromUntyped.record "RefOr" [field] "" (.mapping (Untyped.ofJsonMembers members)) = _
  rw [FromUntyped.record, entries]
  rfl

/-- Values are printed as objects without a field `$ref`. -/
def PrintsNoReference (print : α → Value) : Prop :=
  ∀ a, ∃ members : Table Value, print a = .object members ∧ "$ref" ∉ members.names

variable {property : α → Prop} (shape : PrintsNoReference print)
  (back : ∀ a, property a → ReadsBack read print a)
include shape back

/-- A part is read back as what it was, given in place or by reference. -/
theorem readsBack_refOr {part : RefOr α} (inPlace : part.InPlace property) :
    ReadsBackGiven (fun depth => readRefOr (read depth)) (RefOr.toJson print) part := by
  cases part with
  | ref reference => exact ⟨fun _ _ => rfl, nofun⟩
  | item a =>
      obtain ⟨members, printed, none⟩ := shape a
      constructor
      · intro depth deep
        refine (Untyped.firstShape_of_error ?_).trans (Untyped.firstShape_of_ok ?_)
        · obtain ⟨complaint, error⟩ := readReference_error none
          rw [RefOr.toJson, printed, error]
          exact ⟨_, rfl⟩
        · exact congrArg (Except.map RefOr.item) (back a (inPlace a rfl) depth deep)
      · rw [RefOr.toJson, printed]
        nofun

theorem readsBack_partsTable {t : Table (RefOr α)}
    (canonical : t.Canonical (RefOr.InPlace property)) :
    ReadsBack (fun depth => Format.table (readRefOr (read depth)))
      (Value.ofTable (RefOr.toJson print)) t :=
  .table ⟨canonical.names, fun name part entry =>
    (readsBack_refOr shape back (canonical.values name part entry)).back⟩

end RefOr

section Parts

/-- What the reader of schemas brings about: each schema is read back. -/
abbrev SchemaReadsBack : Schema → Prop :=
  ReadsBackGiven schemaFromUntyped Schema.toJson

theorem readsBack_mediaType {m : MediaType} (canonical : m.Canonical SchemaReadsBack) :
    ReadsBack readMediaType MediaType.toJson m := by
  intro depth deep
  refine Reads.record ?_ "MediaType" (by simp) (Nat.le_of_lt deep)
  exact .optional canonical.schema .nil

theorem readsBack_content {content : Table MediaType}
    (canonical : content.Canonical (MediaType.Canonical SchemaReadsBack)) :
    ReadsBack (fun depth => Format.table (readMediaType depth)) (Value.ofTable MediaType.toJson)
      content :=
  .table ⟨canonical.names, fun name m entry =>
    readsBack_mediaType (canonical.values name m entry)⟩

theorem readsBack_place (place : ParameterPlace) :
    ReadsBack (fun _ => FromUntyped.choice parameterPlaces) (fun place => .string place.word)
      place := by
  intro _ _
  cases place <;> rfl

theorem readsBack_parameter {p : Parameter} (canonical : p.Canonical SchemaReadsBack) :
    ReadsBack readParameter Parameter.toJson p := by
  intro depth deep
  rw [Parameter.toJson, ofText?_eq] at deep ⊢
  refine Reads.record ?_ "Parameter" (by simp) (Nat.le_of_lt deep)
  refine .optional (fun s _ => readsBack_text s) ?_
  refine .field (readsBack_place p.place) ?_
  refine .optional (fun b _ => readsBack_flag b) ?_
  refine .optional canonical.schema ?_
  refine .field (readsBack_content canonical.content) ?_
  exact .nil

theorem readsBack_requestBody {b : RequestBody} (canonical : b.Canonical SchemaReadsBack) :
    ReadsBack readRequestBody RequestBody.toJson b := by
  intro depth deep
  rw [RequestBody.toJson, ofText?_eq] at deep ⊢
  refine Reads.record ?_ "RequestBody" (by simp) (Nat.le_of_lt deep)
  refine .optional (fun s _ => readsBack_text s) ?_
  refine .optional (fun b _ => readsBack_flag b) ?_
  refine .field (readsBack_content canonical.content) ?_
  exact .nil

theorem readsBack_response {r : Response} (canonical : r.Canonical SchemaReadsBack) :
    ReadsBack readResponse Response.toJson r := by
  intro depth deep
  rw [Response.toJson, ofText?_eq] at deep ⊢
  refine Reads.record ?_ "Response" (by simp) (Nat.le_of_lt deep)
  refine .optional (fun s _ => readsBack_text s) ?_
  refine .field (readsBack_content canonical.content) ?_
  exact .nil

theorem readsBack_securityScheme {s : SecurityScheme} (canonical : s.Canonical) :
    ReadsBack (fun _ => readSecurityScheme) SecurityScheme.toJson s := by
  have flows : ∀ v, s.flows = some v → ReadsBackGiven (fun _ => FromUntyped.json) id v := by
    intro v given
    obtain ⟨distinct, present⟩ := canonical.flows v given
    exact ⟨readsBack_json distinct, present⟩
  intro depth deep
  rw [SecurityScheme.toJson, ofText?_eq, ofText?_eq] at deep ⊢
  refine Reads.record ?_ "SecurityScheme" (by simp) (Nat.le_of_lt deep)
  refine .optional (fun s _ => readsBack_text s) ?_
  refine .optional (fun s _ => readsBack_text s) ?_
  exact .optional flows .nil

theorem readsBack_requirement {r : SecurityRequirement} (distinct : Table.Distinct r) :
    ReadsBack (fun _ => readSecurityRequirement) SecurityRequirement.toJson r :=
  .table ⟨distinct, fun _ scopes _ => readsBack_texts scopes⟩

theorem readsBack_requirements {requirements : List SecurityRequirement}
    (distinct : ∀ r ∈ requirements, Table.Distinct r) :
    ReadsBackGiven (fun _ => Format.list readSecurityRequirement)
      (Value.ofList SecurityRequirement.toJson) requirements :=
  ⟨.list fun r member => readsBack_requirement (distinct r member), nofun⟩

theorem printsNoReference_parameter : PrintsNoReference Parameter.toJson :=
  fun _ => ⟨_, rfl, by simp [Table.names]⟩

theorem printsNoReference_requestBody : PrintsNoReference RequestBody.toJson :=
  fun _ => ⟨_, rfl, by simp [Table.names]⟩

theorem printsNoReference_response : PrintsNoReference Response.toJson :=
  fun _ => ⟨_, rfl, by simp [Table.names]⟩

theorem printsNoReference_securityScheme : PrintsNoReference SecurityScheme.toJson :=
  fun _ => ⟨_, rfl, by simp [Table.names]⟩

theorem readsBack_parameters {parameters : List (RefOr Parameter)}
    (canonical : ∀ part ∈ parameters, part.InPlace (Parameter.Canonical SchemaReadsBack)) :
    ReadsBack (fun depth => Format.list (readRefOr (readParameter depth)))
      (Value.ofList (RefOr.toJson Parameter.toJson)) parameters :=
  .list fun part member => (readsBack_refOr printsNoReference_parameter
    (fun _ => readsBack_parameter) (canonical part member)).back

theorem readsBack_operation {o : Operation} (canonical : o.Canonical SchemaReadsBack) :
    ReadsBackGiven readOperation Operation.toJson o := by
  refine ⟨fun depth deep => ?_, nofun⟩
  rw [Operation.toJson, ofText?_eq, ofText?_eq] at deep ⊢
  refine Reads.record ?_ "Operation" (by simp) (Nat.le_of_lt deep)
  refine .optional (fun s _ => readsBack_text s) ?_
  refine .optional (fun s _ => readsBack_text s) ?_
  refine .field (readsBack_texts o.tags) ?_
  refine .field (readsBack_parameters canonical.parameters) ?_
  refine .optional (fun part given => readsBack_refOr printsNoReference_requestBody
    (fun _ => readsBack_requestBody) (canonical.requestBody part given)) ?_
  refine .field (readsBack_partsTable printsNoReference_response
    (fun _ => readsBack_response) canonical.responses) ?_
  refine .optional (fun requirements given =>
    readsBack_requirements (canonical.security requirements given)) ?_
  exact .nil

theorem reads_operations {item : PathItem} (canonical : item.Canonical SchemaReadsBack)
    (depth : Nat) (methods : List Method) (start : PathItem) :
    Reads depth
      (methods.map fun m => .optional m.name (readOperation depth) fun v i => i.setOperation m v)
      (methods.map fun m => (m.name, .ofOption Operation.toJson (item.operation? m))) start
      (methods.foldl (fun i m => i.setOperation m (item.operation? m)) start) := by
  induction methods generalizing start with
  | nil => exact .nil
  | cons m rest ih =>
      exact .optional (fun o declared => readsBack_operation (canonical.operations m o declared))
        (ih _)

theorem readsBack_pathItem {item : PathItem} (canonical : item.Canonical SchemaReadsBack) :
    ReadsBack readPathItem PathItem.toJson item := by
  have rebuilt : Method.all.foldl (fun i m => i.setOperation m (item.operation? m))
      { parameters := item.parameters } = item := by
    cases item
    rfl
  intro depth deep
  have operations := reads_operations canonical depth Method.all { parameters := item.parameters }
  refine Reads.record ?_ "PathItem" (by simp [Method.all, Method.name]) (Nat.le_of_lt deep)
  refine .field (readsBack_parameters canonical.parameters) ?_
  rw [rebuilt] at operations
  exact operations

theorem readsBack_components {c : Components}
    (canonical : c.Canonical SchemaReadsBack SecurityScheme.Canonical) :
    ReadsBackGiven readComponents Components.toJson c := by
  have schemas : ReadsBack (fun depth => Format.table (readSchema depth))
      (Value.ofTable Schema.toJson) c.schemas := by
    simp only [readSchema_eq]
    exact .table ⟨canonical.schemas.names, fun name s entry =>
      (canonical.schemas.values name s entry).back⟩
  refine ⟨fun depth deep => ?_, nofun⟩
  refine Reads.record ?_ "Components" (by simp) (Nat.le_of_lt deep)
  refine .field schemas ?_
  refine .field (readsBack_partsTable printsNoReference_parameter
    (fun _ => readsBack_parameter) canonical.parameters) ?_
  refine .field (readsBack_partsTable printsNoReference_requestBody
    (fun _ => readsBack_requestBody) canonical.requestBodies) ?_
  refine .field (readsBack_partsTable printsNoReference_response
    (fun _ => readsBack_response) canonical.responses) ?_
  refine .field (readsBack_partsTable printsNoReference_securityScheme
    (fun _ => readsBack_securityScheme) canonical.securitySchemes) ?_
  exact .nil

theorem readsBack_info (i : Info) : ReadsBackGiven (fun _ => readInfo) Info.toJson i := by
  refine ⟨fun depth deep => ?_, nofun⟩
  rw [Info.toJson, ofText?_eq, ofText?_eq, ofText?_eq] at deep ⊢
  refine Reads.record ?_ "Info" (by simp) (Nat.le_of_lt deep)
  refine .optional (fun s _ => readsBack_text s) ?_
  refine .optional (fun s _ => readsBack_text s) ?_
  exact .optional (fun s _ => readsBack_text s) .nil

theorem readsBack_server (s : Server) : ReadsBack (fun _ => readServer) Server.toJson s := by
  intro depth deep
  rw [Server.toJson, ofText?_eq, ofText?_eq] at deep ⊢
  refine Reads.record ?_ "Server" (by simp) (Nat.le_of_lt deep)
  refine .optional (fun s _ => readsBack_text s) ?_
  exact .optional (fun s _ => readsBack_text s) .nil

theorem readsBack_tag (t : Tag) : ReadsBack (fun _ => readTag) Tag.toJson t := by
  intro depth deep
  rw [Tag.toJson, ofText?_eq] at deep ⊢
  refine Reads.record ?_ "Tag" (by simp) (Nat.le_of_lt deep)
  refine .field (readsBack_text t.name).back ?_
  exact .optional (fun s _ => readsBack_text s) .nil

/-- A canonical document whose schemas are read back is read back. -/
theorem readsBack_document {d : Document}
    (canonical : d.Canonical SchemaReadsBack SecurityScheme.Canonical) :
    ReadsBack readDocument Document.toJson d := by
  intro depth deep
  rw [Document.toJson, ofText?_eq] at deep ⊢
  refine Reads.record ?_ "OpenApiDocument" (by simp) (Nat.le_of_lt deep)
  refine .optional (fun s _ => readsBack_text s) ?_
  refine .optional (fun i _ => readsBack_info i) ?_
  refine .field (.list fun s _ => readsBack_server s) ?_
  refine .field (.table ⟨canonical.paths.names, fun path item entry =>
    readsBack_pathItem (canonical.paths.values path item entry)⟩) ?_
  refine .optional (fun c given => readsBack_components (canonical.components c given)) ?_
  refine .field (.list fun t _ => readsBack_tag t) ?_
  refine .field (readsBack_requirements canonical.security).back ?_
  exact .nil

end Parts

theorem yields_readDocument {depth : Nat} :
    Yields (FromJson fun v => v.fits = true)
      (Document.Canonical SchemaReadsBack SecurityScheme.Canonical) (readDocument depth) := by
  refine (tracking closed_fitting).gives_readDocument yields_schemaFromUntyped ?_
    (yields_readSecurityScheme closed_fitting)
  rw [readSchema_eq]
  exact yields_schemaFromUntyped

theorem Document.canonical_ofJson {v : Value} {d : Document} (fits : v.fits = true)
    (loaded : Document.ofJson v = .ok d) :
    d.Canonical SchemaReadsBack SecurityScheme.Canonical :=
  yields_readDocument _ d ⟨v, fits, rfl⟩ loaded

theorem Document.Canonical.ofJson_printed {d : Document}
    (canonical : d.Canonical SchemaReadsBack SecurityScheme.Canonical) :
    Document.ofJson d.toJson = .ok d :=
  readsBack_document canonical _ (Nat.lt_succ_self _)

theorem Document.Canonical.eq_of_toJson {d e : Document}
    (canonical : d.Canonical SchemaReadsBack SecurityScheme.Canonical)
    (other : e.Canonical SchemaReadsBack SecurityScheme.Canonical)
    (same : e.toJson = d.toJson) : e = d := by
  have equal := other.ofJson_printed
  rw [same, canonical.ofJson_printed] at equal
  exact (Except.ok.inj equal).symm

/-- A document that was read from a JSON value, whose integers fit 64 bits as
those of all values read from texts do (`Value.fits_of_parse`), is given back by
reading what it is printed as.
Hence no other document is printed alike, and the printed document gets the same
review. -/
theorem Document.ofJson_toJson {v : Value} {d : Document} (fits : v.fits = true)
    (loaded : Document.ofJson v = .ok d) :
    Document.ofJson d.toJson = .ok d ∧
      (∀ w e, w.fits = true → Document.ofJson w = .ok e → e.toJson = d.toJson → e = d) ∧
      ∀ p, (Document.ofJson d.toJson).map (·.review p) = .ok (d.review p) := by
  have canonical := Document.canonical_ofJson fits loaded
  refine ⟨canonical.ofJson_printed, fun w e otherFits otherLoaded same => ?_, fun p => ?_⟩
  · exact canonical.eq_of_toJson (Document.canonical_ofJson otherFits otherLoaded) same
  · rw [canonical.ofJson_printed]
    rfl

/-- A JSON value with most kinds of parts that have several shapes. -/
def severalShapes : Value :=
  .object
    [("paths", .object
      [("/a", .object
        [("parameters", .array [.object [("$ref", .string "#/components/parameters/Limit")]]),
         ("get", .object [("security", .array []), ("responses", .object [])])])]),
     ("components", .object
      [("parameters", .object [("Limit", .object [("in", .string "query")])]),
       ("schemas", .object
        [("Kind", .object [("type", .array [.string "string"]), ("enum", .array [])]),
         ("Pet", .object
          [("type", .string "object"), ("minimum", .number (.integer 3)),
           ("enum", .array [.object [("tags", .array [.null, .number (.integer (-1))])]]),
           ("additionalProperties", .object [("additionalProperties", .bool false)])])])])]

/-- The document that `severalShapes` describes. -/
def severalShapesDocument : Document :=
  { paths :=
      [("/a",
        { parameters := [.ref "#/components/parameters/Limit"], get := some { security := some [] } })]
    components := some
      { parameters := [("Limit", .item {})]
        schemas :=
          [("Kind", { type := some (.several ["string"]), enumValues := some [] }),
           ("Pet",
            { type := some (.single "object")
              minimum := some (.ofInt 3)
              enumValues := some [.object [("tags", .array [.null, .number (.integer (-1))])]]
              additional := some (.valued { additional := some (.allowed false) }) })] } }

theorem Document.ofJson_toJson_severalShapes :
    severalShapes.fits = true ∧ Document.ofJson severalShapes = .ok severalShapesDocument ∧
      Document.ofJson severalShapesDocument.toJson = .ok severalShapesDocument := by
  have fits : severalShapes.fits = true := by decide
  have loaded : Document.ofJson severalShapes = .ok severalShapesDocument := rfl
  exact ⟨fits, loaded, (Document.ofJson_toJson fits loaded).1⟩

end ApiReview
