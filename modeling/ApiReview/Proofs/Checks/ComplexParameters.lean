import ApiReview.Proofs.Checks.ParameterEntries
import ApiReview.Proofs.Document.ReferenceChains
import ApiReview.Proofs.Document.SchemaReading

/-!
# Complex schemas of parameters

That a parameter uses a schema which should be a component of its own is reported below the
entry that gives the parameter, under the field of its own schema.  There it stands if the
parameter is given in place and it is the own schema.  If it is a schema of the content, then
the location leads to the own schema, or to null when there is none.  If the parameter is
given by reference, then the location leads nowhere, and the schema stands at a component.
-/

namespace ApiReview

open Json (Value)
open Pointer (ofKeys)

/-- A schema that the parameter holds should be a component of its own. -/
def Parameter.UsesComplexSchema (p : Parameter) : Prop :=
  ∃ keys schema, p.Holds keys schema ∧ schema.isComplexInline = true

/-- A schema that should be a component of its own is listed below some keys. -/
def Document.ListsComplex (d : Document) (keys : List String) : Prop :=
  ∃ schema, (ofKeys keys, schema) ∈ d.inlineSchemas ∧ schema.isComplexInline = true

/-- Where the location leads of the finding that the parameter of an entry uses a complex
schema, and where the complex schema stands. -/
inductive LocationLeads (d : Document) (site : ParameterSite) (p : Parameter) : Prop
  | toItself {schema : Schema} (inPlace : site.entry = .item p) (own : p.schema = some schema)
      (reached : d.toJson.resolve? site.schemaPointer = some schema.toJson)
      (listed : (site.schemaPointer, schema) ∈ d.inlineSchemas)
      (complex : schema.isComplexInline = true)
  | toOwnSchema {schema : Schema} {mediaType : String} (inPlace : site.entry = .item p)
      (own : p.schema = some schema)
      (reached : d.toJson.resolve? site.schemaPointer = some schema.toJson)
      (listed : (site.schemaPointer, schema) ∈ d.inlineSchemas)
      (plain : schema.isComplexInline = false)
      (complex : d.ListsComplex (site.keys ++ ["content", mediaType, "schema"]))
  | toNull {mediaType : String} (inPlace : site.entry = .item p) (absent : p.schema = none)
      (reached : d.toJson.resolve? site.schemaPointer = some .null)
      (complex : d.ListsComplex (site.keys ++ ["content", mediaType, "schema"]))
  | nowhere {reference name : String} {keys : List String}
      (referred : site.entry = .ref reference)
      (declared : (name, .item p) ∈ d.allComponents.parameters)
      (lost : d.toJson.resolve? site.schemaPointer = none)
      (complex : d.ListsComplex ("components" :: "parameters" :: name :: keys))

variable {d : Document} {policy : Policy} {site : ParameterSite} {p : Parameter}
  {schema : Schema} {keys : List String} {name : String} {finding : Finding}

section Places

/-- A document holds what the parameters given in place of its lists hold. -/
theorem Document.holds_parameterSite (member : site ∈ d.parameterSites)
    (inPlace : site.entry = .item p) (inside : p.Holds keys schema) :
    d.Holds (site.keys ++ keys) schema := by
  obtain ⟨later, listed⟩ := mem_parameterSites.mp member
  have found : (site.earlier ++ site.entry :: later)[site.earlier.length]? =
      some (.item p) := by
    simp [inPlace]
  rcases mem_parameterLists.mp listed with ⟨path, item, entry, owner, entries⟩ |
    ⟨operation, declared, owner, entries⟩
  · rw [entries] at found
    rw [ParameterSite.keys, owner]
    exact .path entry (.parameter (.item found (.item inside)))
  · obtain ⟨entry, given⟩ := mem_operations.mp declared
    rw [entries] at found
    rw [ParameterSite.keys, owner]
    exact .path entry (.operation given (.parameter (.item found (.item inside))))

/-- A parameter that is given by reference is a component. -/
theorem Document.exists_component_of_resolveParameter {reference : String}
    (found : d.resolveParameter (.ref reference) = some p) :
    ∃ name, (name, .item p) ∈ d.allComponents.parameters := by
  obtain ⟨names, -, chain⟩ := RefOr.resolveWithin_eq_some_iff.mp found
  rcases chain.last_eq_or_mem with same | declared
  · cases same
  · exact declared

theorem Document.Holds.mem_inlineSchemas (distinct : d.Distinct) (held : d.Holds keys schema) :
    (ofKeys keys, schema) ∈ d.inlineSchemas :=
  ((d.pointsTo_inlineSchemas distinct).mem_iff _ schema).mpr ⟨keys, held, rfl⟩

theorem Document.resolve?_schemaPointer (distinct : d.Distinct) (member : site ∈ d.parameterSites) :
    d.toJson.resolve? site.schemaPointer =
      site.entry.item?.map fun p => .ofOption Schema.toJson p.schema := by
  rw [ParameterSite.schemaPointer, Value.resolve?_ofKeys, follow?_parameterSite distinct member]
  cases site.entry with
  | ref reference => rfl
  | item p => rfl

/-- The location of an entry is listed exactly for the own schema of a parameter given in
place. -/
theorem Document.mem_inlineSchemas_schemaPointer (distinct : d.Distinct)
    (member : site ∈ d.parameterSites) :
    (site.schemaPointer, schema) ∈ d.inlineSchemas ↔
      ∃ p, site.entry = .item p ∧ p.schema = some schema := by
  have listed := d.pointsTo_inlineSchemas distinct
  constructor
  · intro atPointer
    obtain ⟨keys, held, same⟩ := (listed.mem_iff _ schema).mp atPointer
    have reached : d.toJson.resolve? site.schemaPointer = some schema.toJson := by
      rw [same, Value.resolve?_ofKeys]
      exact held.follow? distinct
    rw [resolve?_schemaPointer distinct member] at reached
    cases given : site.entry with
    | ref reference =>
        rw [given] at reached
        cases reached
    | item p =>
        rw [given] at reached
        cases own : p.schema with
        | none =>
            obtain ⟨members, printed⟩ := schema.exists_toJson_eq
            rw [printed] at reached
            simp [RefOr.item?, own, Value.ofOption] at reached
        | some other =>
            have beside : (site.schemaPointer, other) ∈ d.inlineSchemas :=
              (holds_parameterSite member given (.schema own)).mem_inlineSchemas distinct
            obtain ⟨-, rfl⟩ := Prod.mk.inj
              (List.inj_on_of_nodup_map listed.nodup beside atPointer rfl)
            exact ⟨p, rfl, own⟩
  · rintro ⟨p, inPlace, own⟩
    exact (holds_parameterSite member inPlace (.schema own)).mem_inlineSchemas distinct

theorem locationLeads_inPlace (distinct : d.Distinct) (member : site ∈ d.parameterSites)
    (inPlace : site.entry = .item p) (complex : p.UsesComplexSchema) :
    LocationLeads d site p := by
  obtain ⟨keys, schema, held, structured⟩ := complex
  have listed {keys : List String} {schema : Schema} (held : p.Holds keys schema) :
      (ofKeys (site.keys ++ keys), schema) ∈ d.inlineSchemas :=
    (Document.holds_parameterSite member inPlace held).mem_inlineSchemas distinct
  have reached : d.toJson.resolve? site.schemaPointer =
      some (.ofOption Schema.toJson p.schema) := by
    rw [Document.resolve?_schemaPointer distinct member, inPlace]
    rfl
  cases given : p.schema with
  | none =>
      rw [given] at reached
      cases held with
      | schema own => cases given.symm.trans own
      | content inside =>
          obtain ⟨entry, media⟩ := inside
          exact .toNull inPlace given reached
            ⟨schema, listed (.content (.media entry media)), structured⟩
  | some own =>
      rw [given] at reached
      cases plain : own.isComplexInline with
      | true => exact .toItself inPlace given reached (listed (.schema given)) plain
      | false =>
          cases held with
          | schema same =>
              obtain rfl := Option.some.inj (given.symm.trans same)
              rw [plain] at structured
              cases structured
          | content inside =>
              obtain ⟨entry, media⟩ := inside
              exact .toOwnSchema inPlace given reached (listed (.schema given)) plain
                ⟨schema, listed (.content (.media entry media)), structured⟩

/-- The location of an entry that is a reference leads nowhere. -/
theorem locationLeads_byReference (distinct : d.Distinct) (member : site ∈ d.parameterSites)
    {reference : String} (referred : site.entry = .ref reference)
    (found : d.resolveParameter (.ref reference) = some p) (complex : p.UsesComplexSchema) :
    LocationLeads d site p := by
  obtain ⟨keys, schema, held, structured⟩ := complex
  obtain ⟨name, declared⟩ := Document.exists_component_of_resolveParameter found
  have component : d.Holds ("components" :: "parameters" :: name :: keys) schema :=
    .component (.parameter (.entry declared (.item held)))
  have lost : d.toJson.resolve? site.schemaPointer = none := by
    rw [Document.resolve?_schemaPointer distinct member, referred]
    rfl
  exact .nowhere referred declared lost ⟨schema, component.mem_inlineSchemas distinct, structured⟩

/-- The location of an entry is that of a complex schema only if this is the own schema of a
parameter given in place. -/
theorem listsComplex_schemaPointer_iff (distinct : d.Distinct) (member : site ∈ d.parameterSites)
    (found : d.resolveParameter site.entry = some p) :
    d.ListsComplex (site.keys ++ ["schema"]) ↔
      site.entry = .item p ∧ ∃ schema, p.schema = some schema ∧
        schema.isComplexInline = true := by
  constructor
  · rintro ⟨schema, listed, complex⟩
    obtain ⟨q, inPlace, own⟩ :=
      (Document.mem_inlineSchemas_schemaPointer distinct member).mp listed
    rw [inPlace] at found
    obtain rfl : q = p := Option.some.inj found
    exact ⟨inPlace, schema, own, complex⟩
  · rintro ⟨inPlace, schema, own, complex⟩
    exact ⟨schema, (Document.mem_inlineSchemas_schemaPointer distinct member).mpr
      ⟨p, inPlace, own⟩, complex⟩

end Places

namespace Checks

theorem mem_contentSchemas {content : Table MediaType} :
    schema ∈ contentSchemas content ↔ ∃ keys, ContentHolds content keys schema := by
  unfold contentSchemas
  rw [List.mem_filterMap]
  constructor
  · rintro ⟨⟨mediaType, media⟩, entry, given⟩
    exact ⟨_, .media entry given⟩
  · rintro ⟨_, ⟨entry, given⟩⟩
    exact ⟨_, entry, given⟩

theorem usesComplexSchema_iff : p.UsesComplexSchema ↔
    (p.schema.toList ++ contentSchemas p.content).any Schema.isComplexInline = true := by
  simp only [List.any_eq_true, List.mem_append, Option.mem_toList,
    mem_contentSchemas]
  constructor
  · rintro ⟨keys, schema, own | inside, complex⟩
    · exact ⟨schema, .inl own, complex⟩
    · exact ⟨schema, .inr ⟨keys, inside⟩, complex⟩
  · rintro ⟨schema, own | ⟨keys, inside⟩, complex⟩
    · exact ⟨_, schema, .schema own, complex⟩
    · exact ⟨keys, schema, .content inside, complex⟩

theorem mem_namedParameterFindings_complex {repeated : Bool} :
    finding ∈ namedParameterFindings policy p name site.pointer repeated ∧
        finding.rule = .complexInlineParameterSchema ↔
      p.UsesComplexSchema ∧ finding = site.complexSchema name := by
  rw [usesComplexSchema_iff]
  constructor
  · rintro ⟨found, rule⟩
    simp only [namedParameterFindings, List.mem_append, List.mem_ite_nil_right,
      List.mem_singleton, site.schemaPointer_eq] at found
    rcases found with (((⟨-, rfl⟩ | ⟨-, rfl⟩) | ⟨-, rfl⟩) | ⟨complex, rfl⟩) | ⟨-, rfl⟩
    · cases rule
    · cases rule
    · cases rule
    · exact ⟨complex, rfl⟩
    · cases rule
  · rintro ⟨complex, rfl⟩
    refine ⟨?_, rfl⟩
    rw [namedParameterFindings, if_pos complex, site.schemaPointer_eq]
    simp [ParameterSite.complexSchema]

/-- At an entry a complex schema is reported for a parameter that has a name and uses one. -/
theorem mem_entryFindings_complex :
    finding ∈ entryFindings d policy site ∧ finding.rule = .complexInlineParameterSchema ↔
      ∃ p name, d.namedParameter? site.entry = some (p, name) ∧ p.UsesComplexSchema ∧
        finding = site.complexSchema name := by
  cases named : d.namedParameter? site.entry with
  | some found =>
      obtain ⟨p, name⟩ := found
      rw [entryFindings_named named, mem_namedParameterFindings_complex]
      simp
  | none =>
      refine ⟨fun ⟨found, rule⟩ => ?_, fun ⟨_, _, given, _⟩ => nomatch given⟩
      cases resolved : d.resolveParameter site.entry with
      | none =>
          rw [entryFindings_unresolved resolved] at found
          obtain rfl := List.mem_singleton.mp found
          cases rule
      | some p =>
          have unnamed : p.declaredName? = none := by
            simpa [Document.namedParameter?, resolved] using named
          rw [entryFindings_unnamed resolved unnamed] at found
          obtain rfl := List.mem_singleton.mp found
          cases rule

/-- That a parameter uses a complex schema is reported for every entry that gives a parameter
with a name and such a schema, at the field for its own schema below the entry.  There the
complex schema is listed exactly if it is the own schema of a parameter that is given in
place.  Otherwise the location leads to another schema, to null or nowhere. -/
theorem complex_schemas_located (d : Document) (distinct : d.Distinct) (s : Session) :
    (∀ finding, finding ∈ parameters.added d s ∧
        finding.rule = .complexInlineParameterSchema ↔
      ∃ site ∈ d.parameterSites, ∃ p name, d.namedParameter? site.entry = some (p, name) ∧
        p.UsesComplexSchema ∧ finding = site.complexSchema name) ∧
    ∀ site ∈ d.parameterSites, ∀ p name, d.namedParameter? site.entry = some (p, name) →
      p.UsesComplexSchema →
        LocationLeads d site p ∧
          (d.ListsComplex (site.keys ++ ["schema"]) ↔
            site.entry = .item p ∧ ∃ schema, p.schema = some schema ∧
              schema.isComplexInline = true) := by
  constructor
  · intro finding
    rw [added_parameters, List.mem_flatMap]
    constructor
    · rintro ⟨⟨site, member, found⟩, rule⟩
      exact ⟨site, member, mem_entryFindings_complex.mp ⟨found, rule⟩⟩
    · rintro ⟨site, member, report⟩
      obtain ⟨found, rule⟩ := mem_entryFindings_complex.mpr report
      exact ⟨⟨site, member, found⟩, rule⟩
  · intro site member p name named complex
    obtain ⟨found, -⟩ := namedParameter?_eq_some_iff.mp named
    refine ⟨?_, listsComplex_schemaPointer_iff distinct member found⟩
    cases given : site.entry with
    | item q =>
        rw [given] at found
        obtain rfl : q = p := Option.some.inj found
        exact locationLeads_inPlace distinct member given complex
    | ref reference =>
        rw [given] at found
        exact locationLeads_byReference distinct member given found complex

/-- An object with structure of its own. -/
def rangeSchema : Schema :=
  { type := some (.single "object"), properties := [("from", {})] }

def filterParameter : Parameter where
  name := some "filter"
  place := .query
  content := [("application/json", { schema := some rangeSchema })]

def pageParameter : Parameter where
  name := some "page"
  place := .query
  schema := some rangeSchema

/-- Three parameters that use a complex schema: in the content, by reference, and as the own
schema. -/
def searchEntries : List (RefOr Parameter) :=
  [.item filterParameter, .ref "#/components/parameters/Page", .item pageParameter]

def search : Document where
  paths := [("/search", { get := some { parameters := searchEntries } })]
  components := some { parameters := [("Page", .item { pageParameter with name := some "size" })] }

/-- An entry of the only list that is not empty. -/
def searchEntry (index : Nat) (entry : RefOr Parameter) : ParameterSite :=
  ⟨.operation "/search" .get, searchEntries.take index, entry⟩

/-- Three findings are located alike, and only the last location leads to a complex schema. -/
theorem complex_schemas_located_search :
    search.Distinct ∧
      (parameters.added search {}).map (fun finding => (finding.rule, finding.location)) =
        [(.complexInlineParameterSchema, "#/paths/~1search/get/parameters/0/schema"),
         (.complexInlineParameterSchema, "#/paths/~1search/get/parameters/1/schema"),
         (.complexInlineParameterSchema, "#/paths/~1search/get/parameters/2/schema")] ∧
      search.toJson.resolve? "#/paths/~1search/get/parameters/0/schema" = some .null ∧
      search.toJson.resolve? "#/paths/~1search/get/parameters/1/schema" = none ∧
      ¬search.ListsComplex ["paths", "/search", "get", "parameters", "0", "schema"] ∧
      ¬search.ListsComplex ["paths", "/search", "get", "parameters", "1", "schema"] ∧
      search.ListsComplex ["paths", "/search", "get", "parameters", "2", "schema"] := by
  have distinct : search.Distinct := by decide
  have member {index : Nat} {entry : RefOr Parameter} {later : List (RefOr Parameter)}
      (entries : searchEntries = searchEntries.take index ++ entry :: later) :
      searchEntry index entry ∈ search.parameterSites :=
    Document.mem_parameterSites.mpr ⟨later, entries ▸ .tail _ (.head _)⟩
  have ofContent : filterParameter.UsesComplexSchema :=
    ⟨_, rangeSchema, .content (.media (.head _) rfl), rfl⟩
  have ofSchema {p : Parameter} (own : p.schema = some rangeSchema) : p.UsesComplexSchema :=
    ⟨_, rangeSchema, .schema own, rfl⟩
  obtain ⟨-, leads⟩ := complex_schemas_located search distinct {}
  obtain ⟨content, contentListed⟩ :=
    leads (searchEntry 0 (.item filterParameter)) (member rfl) filterParameter "filter" rfl ofContent
  obtain ⟨reference, referenceListed⟩ :=
    leads (searchEntry 1 (.ref "#/components/parameters/Page")) (member rfl)
      { pageParameter with name := some "size" } "size" rfl (ofSchema rfl)
  obtain ⟨-, schemaListed⟩ :=
    leads (searchEntry 2 (.item pageParameter)) (member rfl) pageParameter "page" rfl (ofSchema rfl)
  refine ⟨distinct, by decide +kernel, ?_, ?_, ?_, ?_,
    schemaListed.mpr ⟨rfl, rangeSchema, rfl, rfl⟩⟩
  · cases content with
    | toItself _ own => cases own
    | toOwnSchema _ own => cases own
    | toNull _ _ reached => exact reached
    | nowhere referred => cases referred
  · cases reference with
    | toItself inPlace => cases inPlace
    | toOwnSchema inPlace => cases inPlace
    | toNull inPlace => cases inPlace
    | nowhere _ _ lost => exact lost
  · intro listed
    obtain ⟨-, _, own, -⟩ := contentListed.mp listed
    cases own
  · intro listed
    obtain ⟨inPlace, -⟩ := referenceListed.mp listed
    cases inPlace

end Checks

end ApiReview
