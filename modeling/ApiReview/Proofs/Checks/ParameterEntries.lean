import ApiReview.Proofs.Checks.Rules
import ApiReview.Proofs.Checks.Runs
import ApiReview.Proofs.Document.ParameterSites

/-!
# One parameter after the other

The check of parameters goes through each list of parameters from its start and keeps the
keys of the parameters that it has met.  So what is found at an entry depends on it and on
the entries before it in its list, and it is located at this entry or at the schema below.
-/

namespace ApiReview

namespace ParameterSite

/-- The finding that the reference of an entry leads to no parameter. -/
def unresolved (site : ParameterSite) : Finding :=
  .of .unresolvedReference
    ("Parameter reference '" ++ (site.entry.reference?).getD "" ++ "' does not resolve")
    site.pointer

/-- The finding that the parameter of an entry has no name. -/
def unnamed (site : ParameterSite) : Finding :=
  .of .missingParameterName ("Parameter " ++ toString site.earlier.length ++ " has no name")
    site.pointer

/-- The finding that an entry gives a parameter once more. -/
def repeated (site : ParameterSite) (p : Parameter) (name : String) : Finding :=
  .of .duplicateParameter
    ("Parameter '" ++ name ++ "' (in: " ++ p.place.word ++ ") is declared more than once")
    site.pointer

/-- The finding that a schema of the parameter should be a component of its own. -/
def complexSchema (site : ParameterSite) (name : String) : Finding :=
  .of .complexInlineParameterSchema
    ("Parameter '" ++ name ++ "' uses an inline object schema; extract it to components/schemas")
    site.schemaPointer

end ParameterSite

/-- The parameter that an entry gives and its name; none if the entry leads to no parameter
or the parameter has no name. -/
def Document.namedParameter? (d : Document) (entry : RefOr Parameter) :
    Option (Parameter × String) :=
  (d.resolveParameter entry).bind fun p => p.declaredName?.map (p, ·)

/-- What makes the parameter of an entry the same as another one of the list. -/
def Document.parameterKey? (d : Document) (entry : RefOr Parameter) :
    Option (String × ParameterPlace) :=
  (d.namedParameter? entry).map fun (p, name) => Checks.parameterKey p.place name

/-- The findings that are located at an entry or at the schema below it. -/
def findingsAtEntry (site : ParameterSite) (findings : List Finding) : List Finding :=
  findings.filter fun finding =>
    finding.location == site.pointer || finding.location == site.schemaPointer

variable {d : Document} {policy : Policy} {site : ParameterSite} {owner : ParameterOwner}
  {entry : RefOr Parameter} {earlier later : List (RefOr Parameter)} {p : Parameter}
  {name : String} {finding : Finding}

theorem namedParameter?_eq_some_iff : d.namedParameter? entry = some (p, name) ↔
    d.resolveParameter entry = some p ∧ p.declaredName? = some name := by
  simp [Document.namedParameter?, Option.bind_eq_some_iff]

namespace Checks

/-- The findings at an entry. -/
def entryFindings (d : Document) (policy : Policy) (site : ParameterSite) : List Finding :=
  match d.resolveParameter site.entry with
  | none => [site.unresolved]
  | some p =>
    match p.declaredName? with
    | none => [site.unnamed]
    | some name =>
      namedParameterFindings policy p name site.pointer
        (claimant? d.parameterKey? site.earlier (parameterKey p.place name)).isSome

section Cases

theorem entryFindings_unresolved (lost : d.resolveParameter site.entry = none) :
    entryFindings d policy site = [site.unresolved] := by
  rw [entryFindings, lost]

theorem entryFindings_unnamed (found : d.resolveParameter site.entry = some p)
    (unnamed : p.declaredName? = none) : entryFindings d policy site = [site.unnamed] := by
  simp only [entryFindings, found, unnamed]

theorem entryFindings_named (named : d.namedParameter? site.entry = some (p, name)) :
    entryFindings d policy site = namedParameterFindings policy p name site.pointer
      (claimant? d.parameterKey? site.earlier (parameterKey p.place name)).isSome := by
  obtain ⟨found, declared⟩ := namedParameter?_eq_some_iff.mp named
  simp only [entryFindings, found, declared]

theorem parameterKey?_of_named (named : d.namedParameter? entry = some (p, name)) :
    d.parameterKey? entry = some (parameterKey p.place name) := by
  rw [Document.parameterKey?, named, Option.map_some]

theorem parameterKey?_of_nameless (nameless : d.namedParameter? entry = none) :
    d.parameterKey? entry = none := by
  rw [Document.parameterKey?, nameless, Option.map_none]

end Cases

section Steps

variable {seen : List (String × ParameterPlace)}

/-- Checking one entry lists the findings at it, and keeps its key if it has one. -/
theorem parameterFindings_cons
    (tracks : ∀ key, key ∈ seen ↔ key ∈ earlier.filterMap d.parameterKey?) :
    parameterFindings d policy (Pointer.ofKeys owner.keys) (entry :: later) earlier.length seen =
      entryFindings d policy ⟨owner, earlier, entry⟩ ++
        parameterFindings d policy (Pointer.ofKeys owner.keys) later (earlier.length + 1)
          ((d.parameterKey? entry).toList ++ seen) := by
  let site : ParameterSite := ⟨owner, earlier, entry⟩
  have location : Pointer.ofKeys owner.keys ++ "/parameters/" ++ toString earlier.length =
      site.pointer := site.pointer_eq
  rw [parameterFindings, location]
  cases found : d.resolveParameter entry with
  | none =>
      have nameless : d.namedParameter? entry = none := by simp [Document.namedParameter?, found]
      rw [entryFindings_unresolved found, parameterKey?_of_nameless nameless]
      rfl
  | some p =>
      cases declared : p.declaredName? with
      | none =>
          have nameless : d.namedParameter? entry = none := by
            simp [Document.namedParameter?, found, declared]
          rw [entryFindings_unnamed found declared, parameterKey?_of_nameless nameless]
          simp only [declared]
          rfl
      | some name =>
          have named := namedParameter?_eq_some_iff.mpr ⟨found, declared⟩
          have known : seen.contains (parameterKey p.place name) =
              (claimant? d.parameterKey? earlier (parameterKey p.place name)).isSome := by
            rw [Bool.eq_iff_iff, List.contains_iff_mem, tracks, Option.isSome_iff_ne_none, ne_eq,
              claimant?_eq_none_iff, not_not]
          rw [entryFindings_named named, parameterKey?_of_named named]
          simp only [declared, known]
          rfl

/-- Checking some more entries lists their findings in turn. -/
theorem inTurn_append_parameterFindings
    (tracks : ∀ key, key ∈ seen ↔ key ∈ earlier.filterMap d.parameterKey?) :
    inTurn (fun earlier entry => entryFindings d policy ⟨owner, earlier, entry⟩) earlier ++
        parameterFindings d policy (Pointer.ofKeys owner.keys) later earlier.length seen =
      inTurn (fun earlier entry => entryFindings d policy ⟨owner, earlier, entry⟩)
        (earlier ++ later) := by
  induction later generalizing earlier seen with
  | nil => rw [parameterFindings, List.append_nil, List.append_nil]
  | cons entry rest ih =>
      have length : (earlier ++ [entry]).length = earlier.length + 1 := List.length_append
      have next : ∀ key, key ∈ (d.parameterKey? entry).toList ++ seen ↔
          key ∈ (earlier ++ [entry]).filterMap d.parameterKey? := by
        intro key
        rw [List.filterMap_append, List.mem_append, List.mem_append, tracks, or_comm]
        simp
      rw [List.append_cons, ← ih next, inTurn_concat, length, parameterFindings_cons tracks,
        List.append_assoc]

/-- The check goes through the entries of all lists. -/
theorem added_parameters (d : Document) (s : Session) :
    parameters.added d s = d.parameterSites.flatMap (entryFindings d s.policy) := by
  have list (owner : ParameterOwner) (entries : List (RefOr Parameter)) :
      parameterFindings d s.policy (Pointer.ofKeys owner.keys) entries 0 [] =
        (entriesOf owner entries).flatMap (entryFindings d s.policy) := by
    have tracks : ∀ key, key ∈ ([] : List (String × ParameterPlace)) ↔
        key ∈ ([] : List (RefOr Parameter)).filterMap d.parameterKey? := fun _ => Iff.rfl
    have all : parameterFindings d s.policy (Pointer.ofKeys owner.keys) entries 0 [] =
        inTurn (fun earlier entry => entryFindings d s.policy ⟨owner, earlier, entry⟩) entries :=
      inTurn_append_parameterFindings tracks
    rw [all, entriesOf, inTurn, inTurn, List.flatMap_assoc]
    simp only [List.flatMap_singleton]
  rw [Check.addsOnly_parameters.added, Document.parameterSites, Document.parameterLists,
    List.flatMap_assoc, List.flatMap_append, List.flatMap_map, List.flatMap_map]
  congr 1
  · refine List.flatMap_congr ?_
    rintro ⟨name, item⟩ -
    dsimp only
    rw [Pointer.path_eq]
    exact list (.path name) item.parameters
  · refine List.flatMap_congr fun site _ => ?_
    rw [site.pointer_eq]
    exact list (.operation site.path site.method) site.operation.parameters

end Steps

section Locations

theorem location_namedParameterFindings {repeated : Bool} {location : String}
    (found : finding ∈ namedParameterFindings policy p name location repeated) :
    finding.location = location ∨ finding.location = location ++ "/schema" := by
  simp only [namedParameterFindings, List.mem_append, List.mem_ite_nil_right,
    List.mem_singleton] at found
  rcases found with (((⟨-, rfl⟩ | ⟨-, rfl⟩) | ⟨-, rfl⟩) | ⟨-, rfl⟩) | ⟨-, rfl⟩
  · exact .inl rfl
  · exact .inl rfl
  · exact .inl rfl
  · exact .inr rfl
  · exact .inl rfl

/-- What is found at an entry is located at the entry or at the schema below it. -/
theorem location_entryFindings (found : finding ∈ entryFindings d policy site) :
    finding.location = site.pointer ∨ finding.location = site.schemaPointer := by
  rw [← site.schemaPointer_eq]
  unfold entryFindings at found
  split at found
  · rw [List.mem_singleton.mp found]
    exact .inl rfl
  · split at found
    · rw [List.mem_singleton.mp found]
      exact .inl rfl
    · exact location_namedParameterFindings found

/-- What is found at an entry is what is found for it. -/
theorem findingsAtEntry_parameters (distinct : d.paths.Distinct) (s : Session)
    (member : site ∈ d.parameterSites) :
    findingsAtEntry site (parameters.added d s) = entryFindings d s.policy site := by
  have owned : ∀ site ∈ d.parameterSites, ∀ finding ∈ entryFindings d s.policy site,
      (finding.location == site.pointer || finding.location == site.schemaPointer) = true := by
    intro site _ finding found
    rw [Bool.or_eq_true, beq_iff_eq, beq_iff_eq]
    exact location_entryFindings found
  have apart : d.parameterSites.Pairwise fun one two => ∀ finding : Finding,
      (finding.location == one.pointer || finding.location == one.schemaPointer) = true →
        (finding.location == two.pointer || finding.location == two.schemaPointer) = false := by
    refine (d.pairwise_keys_parameterSites distinct).imp fun {one two} differ finding own => ?_
    simp only [Bool.or_eq_true, beq_iff_eq, Bool.or_eq_false_iff, beq_eq_false_iff_ne,
      ParameterSite.pointer, ParameterSite.schemaPointer] at own ⊢
    rcases own with atEntry | atSchema
    · rw [atEntry]
      exact ⟨fun same => differ (Pointer.ofKeys_inj.mp same),
        fun same => ParameterSite.keys_ne_append_schema (Pointer.ofKeys_inj.mp same)⟩
    · rw [atSchema]
      exact ⟨fun same => ParameterSite.keys_ne_append_schema (Pointer.ofKeys_inj.mp same).symm,
        fun same => differ (List.append_cancel_right (Pointer.ofKeys_inj.mp same))⟩
  rw [findingsAtEntry, added_parameters]
  exact filter_flatMap_of_apart owned apart member

end Locations

end Checks

end ApiReview
