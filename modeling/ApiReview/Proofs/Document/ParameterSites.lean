import ApiReview.Proofs.Document.InlinePointers
import ApiReview.Proofs.FirstClaims

/-!
# The entries of lists of parameters

A path item has a list of parameters, and so has each of its operations.  An entry is given
together with the entries before it in its list, whose number is the index under which it
stands.  No two entries of a document stand under the same keys, and the keys of an entry
lead to its printed form.
-/

namespace ApiReview

open Json (Value)
open Pointer (ofKeys)

/-- Whose list of parameters it is. -/
inductive ParameterOwner where
  | path (name : String)
  | operation (path : String) (method : Method)
deriving DecidableEq

def ParameterOwner.keys : ParameterOwner → List String
  | path name => ["paths", name]
  | operation name method => ["paths", name, method.name]

/-- An entry of a list of parameters, with the entries before it. -/
structure ParameterSite where
  owner : ParameterOwner
  earlier : List (RefOr Parameter)
  entry : RefOr Parameter

namespace ParameterSite

def keys (site : ParameterSite) : List String :=
  site.owner.keys ++ ["parameters", toString site.earlier.length]

def pointer (site : ParameterSite) : String :=
  ofKeys site.keys

/-- Where the schema of a parameter given in place stands, outside of its content. -/
def schemaPointer (site : ParameterSite) : String :=
  ofKeys (site.keys ++ ["schema"])

end ParameterSite

/-- The entries of a list. -/
def entriesOf (owner : ParameterOwner) (entries : List (RefOr Parameter)) : List ParameterSite :=
  inTurn (fun earlier entry => [⟨owner, earlier, entry⟩]) entries

namespace Document

/-- The lists of parameters, those of the path items before those of the operations. -/
def parameterLists (d : Document) : List (ParameterOwner × List (RefOr Parameter)) :=
  (d.paths.map fun (name, item) => (.path name, item.parameters)) ++
    d.operations.map fun site => (.operation site.path site.method, site.operation.parameters)

/-- The entries of all lists of parameters. -/
def parameterSites (d : Document) : List ParameterSite :=
  d.parameterLists.flatMap fun (owner, entries) => entriesOf owner entries

end Document

theorem ParameterSite.pointer_eq (site : ParameterSite) :
    ofKeys site.owner.keys ++ "/parameters/" ++ toString site.earlier.length = site.pointer := by
  have field : "/parameters/" = "/" ++ "parameters" ++ "/" := by decide
  have indexed : ofKeys site.owner.keys ++ ("/" ++ "parameters") ++ "/" ++
      toString site.earlier.length =
        ofKeys (site.owner.keys ++ ["parameters"] ++ [toString site.earlier.length]) :=
    Pointer.ofKeys_append_index (by decide) _
  rw [pointer, keys, field]
  simpa [String.append_assoc] using indexed

theorem ParameterSite.schemaPointer_eq (site : ParameterSite) :
    site.pointer ++ "/schema" = site.schemaPointer := by
  have field : "/schema" = "/" ++ "schema" := by decide
  rw [pointer, field, Pointer.ofKeys_append _ (by decide), schemaPointer]

section Keys

theorem ParameterOwner.keys_injective : Function.Injective ParameterOwner.keys := by
  intro one two same
  cases one with
  | path name =>
      cases two with
      | path other =>
          obtain rfl : name = other := by simpa [keys] using same
          rfl
      | operation other method => simp [keys] at same
  | operation path method =>
      cases two with
      | path other => simp [keys] at same
      | operation other otherMethod =>
          obtain ⟨rfl, sameName⟩ : path = other ∧ method.name = otherMethod.name := by
            simpa [keys] using same
          rw [Method.name_injective sameName]

variable {one two : ParameterSite}

theorem ParameterSite.keys_eq_iff : one.keys = two.keys ↔
    one.owner = two.owner ∧ one.earlier.length = two.earlier.length := by
  constructor
  · intro same
    obtain ⟨owners, ends⟩ := List.append_inj' same rfl
    have indices : toString one.earlier.length = toString two.earlier.length := by
      simpa using ends
    exact ⟨ParameterOwner.keys_injective owners, Nat.repr_injective (by simpa using indices)⟩
  · rintro ⟨owners, indices⟩
    rw [keys, keys, owners, indices]

/-- The index of an entry is no word. -/
theorem ParameterSite.keys_ne_append_schema : one.keys ≠ two.keys ++ ["schema"] := by
  intro same
  have lasts := congrArg List.getLast? same
  have word : toString one.earlier.length = "schema" := by simpa [keys] using lasts
  have letter : 's' ∈ (toString one.earlier.length).toList := by
    rw [word]
    decide
  exact absurd (Pointer.isDigit_of_mem_toString letter) (by decide)

end Keys

section Listing

variable {owner : ParameterOwner} {entries : List (RefOr Parameter)} {site : ParameterSite}

theorem mem_entriesOf : site ∈ entriesOf owner entries ↔
    site.owner = owner ∧ ∃ later, entries = site.earlier ++ site.entry :: later := by
  unfold entriesOf
  rw [mem_inTurn]
  constructor
  · rintro ⟨earlier, entry, later, rfl, listed⟩
    obtain rfl := List.mem_singleton.mp listed
    exact ⟨rfl, later, rfl⟩
  · rintro ⟨rfl, later, rfl⟩
    exact ⟨site.earlier, site.entry, later, rfl, List.mem_singleton.mpr rfl⟩

theorem pairwise_entriesOf (owner : ParameterOwner) (entries : List (RefOr Parameter)) :
    (entriesOf owner entries).Pairwise fun one two => one.keys ≠ two.keys := by
  induction entries using List.reverseRecOn with
  | nil => exact List.Pairwise.nil
  | append_singleton entries last ih =>
      have more : entriesOf owner (entries ++ [last]) =
          entriesOf owner entries ++ [⟨owner, entries, last⟩] := inTurn_concat
      rw [more]
      refine List.pairwise_append.mpr ⟨ih, List.pairwise_singleton _ _, ?_⟩
      intro one listed two isLast same
      obtain rfl := List.mem_singleton.mp isLast
      obtain ⟨-, later, all⟩ := mem_entriesOf.mp listed
      have before : one.earlier.length = entries.length := (ParameterSite.keys_eq_iff.mp same).2
      have longer := congrArg List.length all
      rw [List.length_append, List.length_cons] at longer
      omega

namespace Document

variable {d : Document}

theorem mem_parameterSites : site ∈ d.parameterSites ↔
    ∃ later, (site.owner, site.earlier ++ site.entry :: later) ∈ d.parameterLists := by
  unfold parameterSites
  rw [List.mem_flatMap]
  constructor
  · rintro ⟨⟨owner, entries⟩, listed, member⟩
    obtain ⟨rfl, later, rfl⟩ := mem_entriesOf.mp member
    exact ⟨later, listed⟩
  · rintro ⟨later, listed⟩
    exact ⟨_, listed, mem_entriesOf.mpr ⟨rfl, later, rfl⟩⟩

/-- A list of parameters is that of a path item, or that of an operation. -/
theorem mem_parameterLists : (owner, entries) ∈ d.parameterLists ↔
    (∃ name item, (name, item) ∈ d.paths ∧ owner = .path name ∧ entries = item.parameters) ∨
      ∃ site ∈ d.operations, owner = .operation site.path site.method ∧
        entries = site.operation.parameters := by
  unfold parameterLists
  rw [List.mem_append, List.mem_map, List.mem_map]
  constructor
  · rintro (⟨⟨name, item⟩, entry, same⟩ | ⟨site, member, same⟩)
    · obtain ⟨rfl, rfl⟩ := Prod.mk.inj same
      exact .inl ⟨name, item, entry, rfl, rfl⟩
    · obtain ⟨rfl, rfl⟩ := Prod.mk.inj same
      exact .inr ⟨site, member, rfl, rfl⟩
  · rintro (⟨name, item, entry, rfl, rfl⟩ | ⟨site, member, rfl, rfl⟩)
    · exact .inl ⟨(name, item), entry, rfl⟩
    · exact .inr ⟨site, member, rfl⟩

theorem pairwise_owners (distinct : d.paths.Distinct) :
    d.parameterLists.Pairwise fun one two => one.1 ≠ two.1 := by
  unfold parameterLists
  refine List.pairwise_append.mpr ⟨?_, ?_, ?_⟩
  · refine List.pairwise_map.mpr ((List.pairwise_map.mp distinct).imp fun differ same => ?_)
    exact differ (ParameterOwner.path.inj same)
  · refine List.pairwise_map.mpr
      ((d.pairwise_pointer_operations distinct).imp fun differ same => ?_)
    exact differ (OperationSite.pointer_inj.mpr (ParameterOwner.operation.inj same))
  · intro one ofPath two ofOperation same
    obtain ⟨entry, -, rfl⟩ := List.mem_map.mp ofPath
    obtain ⟨site, -, rfl⟩ := List.mem_map.mp ofOperation
    cases same

/-- No two entries stand under the same keys. -/
theorem pairwise_keys_parameterSites (distinct : d.paths.Distinct) :
    d.parameterSites.Pairwise fun one two => one.keys ≠ two.keys := by
  refine List.pairwise_flatMap.mpr ⟨fun list _ => pairwise_entriesOf list.1 list.2, ?_⟩
  refine (pairwise_owners distinct).imp fun differ one inOne two inTwo same => ?_
  have oneOwner := (mem_entriesOf.mp inOne).1
  have twoOwner := (mem_entriesOf.mp inTwo).1
  rw [← oneOwner, ← twoOwner] at differ
  exact differ (ParameterSite.keys_eq_iff.mp same).1

end Document

end Listing

section Printed

variable {d : Document} {site : ParameterSite} {rest : List String}

theorem PathItem.follow?_parameters {item : PathItem} {index : Nat} {entry : RefOr Parameter}
    (found : item.parameters[index]? = some entry) :
    item.toJson.follow? ("parameters" :: toString index :: rest) =
      (entry.toJson Parameter.toJson).follow? rest := by
  have list : item.toJson.step? "parameters" =
      some (.ofList (RefOr.toJson Parameter.toJson) item.parameters) := rfl
  rw [Value.follow?_cons list, Value.follow?_cons (Value.step?_ofList found)]

theorem Operation.follow?_parameters {o : Operation} {index : Nat} {entry : RefOr Parameter}
    (found : o.parameters[index]? = some entry) :
    o.toJson.follow? ("parameters" :: toString index :: rest) =
      (entry.toJson Parameter.toJson).follow? rest := by
  have list : o.toJson.step? "parameters" =
      some (.ofList (RefOr.toJson Parameter.toJson) o.parameters) := rfl
  rw [Value.follow?_cons list, Value.follow?_cons (Value.step?_ofList found)]

/-- The keys of an entry lead to its printed form. -/
theorem Document.follow?_parameterSite (distinct : d.Distinct) (member : site ∈ d.parameterSites)
    (rest : List String) :
    d.toJson.follow? (site.keys ++ rest) = (site.entry.toJson Parameter.toJson).follow? rest := by
  obtain ⟨later, listed⟩ := mem_parameterSites.mp member
  have found : (site.earlier ++ site.entry :: later)[site.earlier.length]? = some site.entry := by
    simp
  rcases mem_parameterLists.mp listed with ⟨name, item, entry, owner, entries⟩ |
    ⟨operation, declared, owner, entries⟩
  · rw [entries] at found
    rw [ParameterSite.keys, owner]
    exact (follow?_path distinct entry).trans (PathItem.follow?_parameters found)
  · obtain ⟨entry, given⟩ := mem_operations.mp declared
    rw [entries] at found
    rw [ParameterSite.keys, owner]
    exact (follow?_path distinct entry).trans
      ((Value.follow?_cons (PathItem.step?_name given)).trans
        (Operation.follow?_parameters found))

end Printed

end ApiReview
