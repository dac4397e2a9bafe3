import ApiReview.Proofs.Checks.ParameterEntries
import ApiReview.Proofs.Text.Casing

/-!
# Repeated parameters

An entry of a list of parameters is reported as a repetition when an entry before it gives
a parameter of the same name at the same place.  Entries that lead to no parameter, or to
one without a name, are told so and count for no other entry, and neither does another
list: an operation may give a parameter of its path item once more.
-/

namespace ApiReview

/-- Parameters at one place have the same name.  The case of ASCII letters does not matter
to the names of headers. -/
def SameName (place : ParameterPlace) (one two : String) : Prop :=
  if place = .header then Text.eqIgnoringAsciiCase one two = true else one = two

/-- An entry leads to a parameter at a place whose name is not blank, and the same as the
given one. -/
def Document.Gives (d : Document) (entry : RefOr Parameter) (place : ParameterPlace)
    (name : String) : Prop :=
  ∃ (p : Parameter) (own : String), d.resolveParameter entry = some p ∧ p.name = some own ∧
    Text.isBlank own = false ∧ p.place = place ∧ SameName place own name

/-- The rules about a single parameter that has a name. -/
def namedParameterRules : List Rule :=
  [.pathParameterNotRequired, .missingParameterSchema, .complexInlineParameterSchema,
    .nullableRequiredParameter]

/-- What has to be said about an entry of a list of parameters. -/
inductive EntryReport (d : Document) (site : ParameterSite) : List Finding → Prop
  | unresolved (lost : d.resolveParameter site.entry = none) :
      EntryReport d site [site.unresolved]
  | unnamed {p : Parameter} (found : d.resolveParameter site.entry = some p)
      (missing : ∀ name, p.name = some name → Text.isBlank name = true) :
      EntryReport d site [site.unnamed]
  | first {p : Parameter} {name : String} {others : List Finding}
      (found : d.resolveParameter site.entry = some p) (given : p.name = some name)
      (filled : Text.isBlank name = false)
      (fresh : ∀ entry ∈ site.earlier, ¬d.Gives entry p.place name)
      (single : FromRules namedParameterRules others) :
      EntryReport d site others
  | again {p : Parameter} {name : String} {entry : RefOr Parameter} {others : List Finding}
      (found : d.resolveParameter site.entry = some p) (given : p.name = some name)
      (filled : Text.isBlank name = false)
      (before : entry ∈ site.earlier) (same : d.Gives entry p.place name)
      (single : FromRules namedParameterRules others) :
      EntryReport d site (site.repeated p name :: others)

variable {d other : Document} {s : Session} {policy : Policy} {site twin : ParameterSite}
  {entry : RefOr Parameter} {p : Parameter} {name location : String}

section Names

theorem Parameter.declaredName?_eq_some_iff : p.declaredName? = some name ↔
    p.name = some name ∧ Text.isBlank name = false := by
  simp [Parameter.declaredName?, Option.filter_eq_some_iff]

theorem Parameter.declaredName?_eq_none_iff : p.declaredName? = none ↔
    ∀ name, p.name = some name → Text.isBlank name = true := by
  simp [Parameter.declaredName?, Option.filter_eq_none_iff]

theorem snd_parameterKey (place : ParameterPlace) (name : String) :
    (Checks.parameterKey place name).2 = place := by
  cases place <;> rfl

theorem parameterKey_eq_iff {place other : ParameterPlace} {own : String} :
    Checks.parameterKey other own = Checks.parameterKey place name ↔
      other = place ∧ SameName place own name := by
  constructor
  · intro same
    have places := congrArg Prod.snd same
    rw [snd_parameterKey, snd_parameterKey] at places
    obtain rfl := places
    refine ⟨rfl, ?_⟩
    have names := congrArg Prod.fst same
    cases other with
    | header => exact Text.eqIgnoringAsciiCase_iff.mpr (String.ofList_injective names)
    | path | query | cookie => exact names
  · rintro ⟨rfl, same⟩
    cases other with
    | header =>
        have lowered := Text.eqIgnoringAsciiCase_iff.mp same
        exact congrArg (fun chars => (String.ofList chars, ParameterPlace.header)) lowered
    | path | query | cookie => exact congrArg (Prod.mk · _) same

theorem gives_iff {place : ParameterPlace} :
    d.Gives entry place name ↔ d.parameterKey? entry = some (Checks.parameterKey place name) := by
  simp only [Document.Gives, Document.parameterKey?, Option.map_eq_some_iff, Prod.exists,
    namedParameter?_eq_some_iff, Parameter.declaredName?_eq_some_iff, parameterKey_eq_iff,
    and_assoc]

end Names

namespace Checks

/-- A repetition is the one finding that the entries before add. -/
theorem namedParameterFindings_repeated (policy : Policy) (site : ParameterSite) (p : Parameter)
    (name : String) :
    namedParameterFindings policy p name site.pointer true =
      site.repeated p name :: namedParameterFindings policy p name site.pointer false :=
  rfl

theorem fromRules_namedParameterFindings :
    FromRules namedParameterRules (namedParameterFindings policy p name location false) := by
  simp [namedParameterFindings, namedParameterRules]

theorem entryReport_entryFindings (policy : Policy) (site : ParameterSite) :
    EntryReport d site (entryFindings d policy site) := by
  cases found : d.resolveParameter site.entry with
  | none =>
      rw [entryFindings_unresolved found]
      exact .unresolved found
  | some p =>
      cases declared : p.declaredName? with
      | none =>
          rw [entryFindings_unnamed found declared]
          exact .unnamed found (Parameter.declaredName?_eq_none_iff.mp declared)
      | some name =>
          obtain ⟨given, filled⟩ := Parameter.declaredName?_eq_some_iff.mp declared
          rw [entryFindings_named (namedParameter?_eq_some_iff.mpr ⟨found, declared⟩)]
          cases claimed : (claimant? d.parameterKey? site.earlier
              (parameterKey p.place name)).isSome with
          | true =>
              obtain ⟨entry, before, same⟩ := claimant?_isSome_iff.mp claimed
              rw [namedParameterFindings_repeated]
              exact .again found given filled before (gives_iff.mpr same)
                fromRules_namedParameterFindings
          | false =>
              refine .first found given filled (fun entry before same => ?_)
                fromRules_namedParameterFindings
              rw [claimant?_isSome_iff.mpr ⟨entry, before, gives_iff.mp same⟩] at claimed
              cases claimed

/-- What is found at an entry depends on the entry, on the components, and on the named
parameters before it. -/
theorem entryFindings_congr {p q : Policy} (components : other.components = d.components)
    (alike : p.Alike q) (pointer : twin.pointer = site.pointer) (entry : twin.entry = site.entry)
    (named : twin.earlier.filterMap d.namedParameter? =
      site.earlier.filterMap d.namedParameter?) :
    entryFindings other q twin = entryFindings d p site := by
  have resolve : other.resolveParameter = d.resolveParameter := by
    funext part
    rw [Document.resolveParameter, Document.resolveParameter, Document.allComponents, components,
      Document.allComponents]
  have parameter : other.namedParameter? = d.namedParameter? := by
    funext part
    rw [Document.namedParameter?, Document.namedParameter?, resolve]
  have parameterKey : other.parameterKey? = d.parameterKey? := by
    funext part
    rw [Document.parameterKey?, Document.parameterKey?, parameter]
  have keys : twin.earlier.filterMap d.parameterKey? = site.earlier.filterMap d.parameterKey? := by
    have mapped := congrArg (List.map fun entry => Checks.parameterKey entry.1.place entry.2) named
    rwa [List.map_filterMap, List.map_filterMap] at mapped
  have index : twin.earlier.length = site.earlier.length :=
    (ParameterSite.keys_eq_iff.mp (Pointer.ofKeys_inj.mp pointer)).2
  cases found : d.resolveParameter site.entry with
  | none =>
      rw [entryFindings_unresolved found, entryFindings_unresolved (by rw [resolve, entry, found]),
        ParameterSite.unresolved, ParameterSite.unresolved, entry, pointer]
  | some parameter =>
      have foundTwin : other.resolveParameter twin.entry = some parameter := by
        rw [resolve, entry, found]
      cases declared : parameter.declaredName? with
      | none =>
          rw [entryFindings_unnamed found declared, entryFindings_unnamed foundTwin declared,
            ParameterSite.unnamed, ParameterSite.unnamed, index, pointer]
      | some name =>
          rw [entryFindings_named (namedParameter?_eq_some_iff.mpr ⟨found, declared⟩),
            entryFindings_named (namedParameter?_eq_some_iff.mpr ⟨foundTwin, declared⟩), pointer,
            parameterKey, namedParameterFindings_congr alike]
          have repeated : ∀ key, (claimant? d.parameterKey? twin.earlier key).isSome =
              (claimant? d.parameterKey? site.earlier key).isSome := by
            intro key
            rw [Bool.eq_iff_iff, claimant?_isSome_iff, claimant?_isSome_iff, ← List.mem_filterMap,
              keys, List.mem_filterMap]
          rw [repeated]

/-- The findings of the check of parameters are those at the entries of the lists, one entry
after the other.  An entry is reported to lead nowhere or to have no name, and nothing else,
or it has a name, and then it is reported as a repetition once if an entry before it in its
list gives the same parameter, and not otherwise.  Whatever else changes in the lists, an
entry is told the same while the named parameters before it are the same. -/
theorem repeated_parameters_reported (d : Document) (distinct : d.paths.Distinct) (s : Session) :
    parameters.added d s =
        d.parameterSites.flatMap (fun site => findingsAtEntry site (parameters.added d s)) ∧
      (∀ site ∈ d.parameterSites,
        EntryReport d site (findingsAtEntry site (parameters.added d s))) ∧
      ∀ (other : Document) (t : Session), other.paths.Distinct →
        other.components = d.components → s.policy.Alike t.policy →
        ∀ site ∈ d.parameterSites, ∀ twin ∈ other.parameterSites,
          twin.pointer = site.pointer → twin.entry = site.entry →
          twin.earlier.filterMap d.namedParameter? = site.earlier.filterMap d.namedParameter? →
          findingsAtEntry twin (parameters.added other t) =
            findingsAtEntry site (parameters.added d s) := by
  have atEntry : ∀ site ∈ d.parameterSites,
      findingsAtEntry site (parameters.added d s) = entryFindings d s.policy site :=
    fun site member => findingsAtEntry_parameters distinct s member
  refine ⟨?_, ?_, ?_⟩
  · rw [List.flatMap_congr atEntry]
    exact added_parameters d s
  · intro site member
    rw [atEntry site member]
    exact entryReport_entryFindings s.policy site
  · intro other t distinctOther components alike site member twin twinMember pointer entry named
    rw [atEntry site member, findingsAtEntry_parameters distinctOther t twinMember]
    exact entryFindings_congr components alike pointer entry named

/-- The list of an operation.  The third entry leads nowhere and the fourth has no name. -/
def tracedEntries : List (RefOr Parameter) :=
  [.item { name := some "X-Trace", place := .header, schema := some {} },
   .item { name := some "X-Trace", place := .query, schema := some {} },
   .ref "#/components/parameters/Nowhere",
   .item { name := some " ", place := .header },
   .ref "#/components/parameters/Trace"]

/-- A document with the lists of a path item and of its only operation. -/
def traced (shared own : List (RefOr Parameter)) : Document where
  paths := [("/items", { parameters := shared, get := some { parameters := own } })]
  components := some
    { parameters := [("Trace", .item
        { name := some "x-trace", place := .header, schema := some {} })] }

/-- The last entry of a list of the operation. -/
def tracedLast (own : List (RefOr Parameter)) : ParameterSite :=
  ⟨.operation "/items" .get, own.dropLast, .ref "#/components/parameters/Trace"⟩

theorem repeated_parameters_reported_traced :
    let d := traced [] tracedEntries
    let again := tracedLast tracedEntries
    let own := tracedEntries.set 2 (.item { name := none })
    let other := traced [.ref "#/components/parameters/Trace"] own
    d.paths.Distinct ∧
      EntryReport d again (findingsAtEntry again (parameters.added d {})) ∧
      (findingsAtEntry again (parameters.added d {})).map Finding.rule = [.duplicateParameter] ∧
      findingsAtEntry (tracedLast own) (parameters.added other {}) =
        findingsAtEntry again (parameters.added d {}) := by
  intro d again own other
  have distinct : d.paths.Distinct := List.nodup_singleton _
  have distinctOther : other.paths.Distinct := List.nodup_singleton _
  have member : again ∈ d.parameterSites := Document.mem_parameterSites.mpr ⟨[], .tail _ (.head _)⟩
  have memberOther : tracedLast own ∈ other.parameterSites :=
    Document.mem_parameterSites.mpr ⟨[], .tail _ (.head _)⟩
  obtain ⟨-, reports, unaffected⟩ := repeated_parameters_reported d distinct {}
  refine ⟨distinct, reports again member, by decide +kernel, ?_⟩
  exact unaffected other {} distinctOther rfl ⟨rfl, rfl⟩ again member (tracedLast own) memberOther
    rfl rfl rfl

end Checks

end ApiReview
