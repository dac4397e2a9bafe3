import ApiReview.Proofs.Checks.Operations
import ApiReview.Proofs.Checks.Placeholders
import ApiReview.Proofs.Document.InlineListing
import ApiReview.Proofs.FirstOccurrences

/-!
# Placeholders and path parameters

For every operation the placeholders of its path are compared with the path parameters that
it has: the placeholders without a parameter are missing one, and the parameters without a
placeholder are unused.  A parameter is reported once.  Of a placeholder that is repeated
only the repetitions right behind it are left out.
-/

namespace ApiReview

variable {d : Document} {p : Policy} {site : OperationSite} {name : String}
  {names : List String}

section Repeats

open Checks (dropRepeats)

variable {last : String}

@[simp]
theorem mem_dropRepeats : name ∈ dropRepeats names ↔ name ∈ names := by
  fun_induction dropRepeats names with
  | case1 a rest ih => simp [ih]
  | case2 a b rest differ ih => simp [ih]
  | case3 short => rfl

theorem dropRepeats_concat (names : List String) (last : String) :
    dropRepeats (names ++ [last]) =
      dropRepeats names ++ if names.getLast? = some last then [] else [last] := by
  fun_induction dropRepeats names with
  | case1 a rest ih => simpa [dropRepeats] using ih
  | case2 a b rest differ ih => simpa [dropRepeats, differ] using ih
  | case3 short none =>
      rcases short with _ | ⟨a, _ | ⟨b, rest⟩⟩
      · rfl
      · by_cases same : a = last <;> simp [dropRepeats, same]
      · exact absurd rfl (none a b rest)

/-- The number of places at which a name stands and does not stand right before, too. -/
def stretches (names : List String) (name : String) : Nat :=
  (List.range names.length).countP fun place =>
    names[place]? == some name && (names.take place).getLast? != some name

theorem stretches_concat : stretches (names ++ [last]) name =
    stretches names name + if last = name ∧ names.getLast? ≠ some name then 1 else 0 := by
  have earlier : ∀ place ∈ List.range names.length,
      ((names ++ [last])[place]? == some name &&
        ((names ++ [last]).take place).getLast? != some name) =
      (names[place]? == some name && (names.take place).getLast? != some name) := by
    intro place member
    have inside : place < names.length := List.mem_range.mp member
    rw [List.getElem?_append_left inside, List.take_append_of_le_length (Nat.le_of_lt inside)]
  unfold stretches
  rw [List.length_append, List.length_singleton, List.range_succ, List.countP_append,
    List.countP_congr fun place member => by rw [earlier place member]]
  simp [List.countP_singleton]

/-- A name is kept once for every stretch of places next to each other. -/
theorem count_dropRepeats : (dropRepeats names).count name = stretches names name := by
  induction names using List.reverseRecOn with
  | nil => rfl
  | append_singleton names last ih =>
      rw [dropRepeats_concat, List.count_append, ih, stretches_concat]
      congr 1
      by_cases behind : names.getLast? = some last
      · have kept : ¬(last = name ∧ names.getLast? ≠ some name) := fun ⟨same, differ⟩ =>
          differ (same ▸ behind)
        rw [if_pos behind, if_neg kept, List.count_nil]
      · by_cases same : last = name
        · subst same
          rw [if_neg behind, if_pos ⟨rfl, behind⟩, List.count_singleton_self]
        · rw [if_neg behind, if_neg fun both => same both.1]
          exact List.count_eq_zero.mpr (by simpa using Ne.symm same)

theorem stretches_eq_zero_iff : stretches names name = 0 ↔ name ∉ names := by
  rw [← count_dropRepeats, List.count_eq_zero, mem_dropRepeats]

/-- No other name stands between two places of a name. -/
def Unbroken (names : List String) (name : String) : Prop :=
  ∀ first middle last : Nat, first < middle → middle < last →
    names[first]? = some name → names[last]? = some name → names[middle]? = some name

theorem getElem?_concat_eq_some_iff {place : Nat} : (names ++ [last])[place]? = some name ↔
    names[place]? = some name ∨ place = names.length ∧ last = name := by
  rcases Nat.lt_trichotomy place names.length with before | rfl | behind
  · simp [List.getElem?_append_left before, Nat.ne_of_lt before]
  · simp
  · have outside : (names ++ [last])[place]? = none := by
      rw [List.getElem?_eq_none_iff, List.length_append]
      exact behind
    simp [outside, List.getElem?_eq_none (Nat.le_of_lt behind), Nat.ne_of_gt behind]

theorem unbroken_concat_of_ne (differ : last ≠ name) :
    Unbroken (names ++ [last]) name ↔ Unbroken names name := by
  unfold Unbroken
  simp [getElem?_concat_eq_some_iff, differ]

theorem unbroken_concat_of_getLast? (same : names.getLast? = some name) :
    Unbroken (names ++ [name]) name ↔ Unbroken names name := by
  rw [List.getLast?_eq_getElem?] at same
  constructor
  · intro unbroken first middle last less more atFirst atLast
    have inside := (List.getElem?_eq_some_iff.mp atLast).1
    have found := unbroken first middle last less more
      (getElem?_concat_eq_some_iff.mpr (.inl atFirst))
      (getElem?_concat_eq_some_iff.mpr (.inl atLast))
    rcases getElem?_concat_eq_some_iff.mp found with found | ⟨atEnd, -⟩
    · exact found
    · omega
  · intro unbroken first middle last less more atFirst atLast
    rw [getElem?_concat_eq_some_iff] at atFirst atLast ⊢
    have early : names[first]? = some name := by
      rcases atFirst with early | ⟨atEnd, -⟩
      · exact early
      · rcases atLast with late | ⟨lateEnd, -⟩
        · have inside := (List.getElem?_eq_some_iff.mp late).1
          omega
        · omega
    refine .inl ?_
    rcases atLast with late | ⟨rfl, -⟩
    · exact unbroken first middle last less more early late
    · by_cases atLast : middle = names.length - 1
      · rw [atLast, same]
      · exact unbroken first middle (names.length - 1) less (by omega) early same

theorem unbroken_concat_of_getLast?_ne (differ : names.getLast? ≠ some name) :
    Unbroken (names ++ [name]) name ↔ name ∉ names := by
  rw [List.getLast?_eq_getElem?] at differ
  constructor
  · intro unbroken member
    obtain ⟨first, found⟩ := List.mem_iff_getElem?.mp member
    have inside := (List.getElem?_eq_some_iff.mp found).1
    have earlier : first < names.length - 1 := by
      by_contra notBefore
      have atEnd : first = names.length - 1 := by omega
      exact differ (atEnd ▸ found)
    have between := unbroken first (names.length - 1) names.length earlier (by omega)
      (getElem?_concat_eq_some_iff.mpr (.inl found))
      (getElem?_concat_eq_some_iff.mpr (.inr ⟨rfl, rfl⟩))
    rcases getElem?_concat_eq_some_iff.mp between with between | ⟨atEnd, -⟩
    · exact differ between
    · omega
  · intro absent first middle last less more atFirst atLast
    have none : ∀ place, names[place]? ≠ some name := fun place found =>
      absent (List.mem_of_getElem? found)
    rcases getElem?_concat_eq_some_iff.mp atFirst with early | ⟨atEnd, -⟩
    · exact absurd early (none first)
    · rcases getElem?_concat_eq_some_iff.mp atLast with late | ⟨lateEnd, -⟩
      · exact absurd late (none last)
      · omega

/-- There is at most one stretch of a name exactly when all its places are together. -/
theorem stretches_le_one_iff : stretches names name ≤ 1 ↔ Unbroken names name := by
  induction names using List.reverseRecOn with
  | nil => simp [stretches, Unbroken]
  | append_singleton names last ih =>
      rw [stretches_concat]
      by_cases same : last = name
      · subst same
        by_cases behind : names.getLast? = some last
        · rw [if_neg fun both => both.2 behind, Nat.add_zero, ih,
            unbroken_concat_of_getLast? behind]
        · rw [if_pos ⟨rfl, behind⟩, unbroken_concat_of_getLast?_ne behind, ← stretches_eq_zero_iff]
          omega
      · rw [if_neg fun both => same both.1, Nat.add_zero, ih, unbroken_concat_of_ne same]

end Repeats

namespace OperationSite

/-- The finding that a placeholder has no path parameter. -/
def missingParameter (site : OperationSite) (name : String) : Finding :=
  .of .missingPathParameter
    (site.label ++ ": placeholder '\x7b" ++ name ++
      "\x7d' has no matching 'in: path' parameter")
    (site.pointer ++ "/parameters")

/-- The finding that a path parameter has no placeholder. -/
def unusedParameter (site : OperationSite) (name : String) : Finding :=
  .of .unusedPathParameter
    (site.label ++ ": path parameter '" ++ name ++ "' does not appear in the path template")
    (site.pointer ++ "/parameters")

end OperationSite

/-- An operation has a path parameter of this name: one that is given by its path item or by
itself, in place or through a reference, and whose name is not blank. -/
def Document.HasPathParameter (d : Document) (site : OperationSite) (name : String) : Prop :=
  ∃ part ∈ site.item.parameters ++ site.operation.parameters, ∃ parameter : Parameter,
    d.resolveParameter part = some parameter ∧ parameter.place = .path ∧
      parameter.name = some name ∧ Text.isBlank name = false

/-- The findings of a rule at a place. -/
def findingsAt (rule : Rule) (location : String) (findings : List Finding) : List Finding :=
  (findings.filter (·.rule == rule)).filter (·.location == location)

namespace Checks

theorem pathParameterName?_eq_some_iff {part : RefOr Parameter} :
    pathParameterName? d part = some name ↔ ∃ parameter : Parameter,
      d.resolveParameter part = some parameter ∧ parameter.place = .path ∧
        parameter.name = some name ∧ Text.isBlank name = false := by
  unfold pathParameterName?
  rw [Option.bind_eq_some_iff]
  refine exists_congr fun parameter => and_congr_right fun _ => ?_
  by_cases place : parameter.place = .path
  · simp [place, Parameter.declaredName?, Option.filter_eq_some_iff]
  · simp [place]

theorem declaredPathParameters_eq (d : Document) (site : OperationSite) :
    declaredPathParameters d site = firstOccurrences
      ((site.item.parameters ++ site.operation.parameters).filterMap (pathParameterName? d)) :=
  rfl

theorem mem_declaredPathParameters :
    name ∈ declaredPathParameters d site ↔ d.HasPathParameter site name := by
  rw [declaredPathParameters_eq, mem_firstOccurrences, List.mem_filterMap]
  simp only [pathParameterName?_eq_some_iff]
  rfl

/-- The placeholders of an operation for which there is no parameter. -/
def missingNames (d : Document) (site : OperationSite) : List String :=
  (dropRepeats (placeholders site.path)).filter fun name =>
    !(declaredPathParameters d site).contains name

/-- The path parameters of an operation for which there is no placeholder. -/
def unusedNames (d : Document) (site : OperationSite) : List String :=
  (declaredPathParameters d site).filter fun name =>
    !(dropRepeats (placeholders site.path)).contains name

theorem pathParameterFindings_eq (d : Document) (site : OperationSite) :
    pathParameterFindings d site =
      (missingNames d site).map site.missingParameter ++
        (unusedNames d site).map site.unusedParameter :=
  rfl

theorem mem_missingNames : name ∈ missingNames d site ↔
    IsPlaceholder site.path name ∧ ¬d.HasPathParameter site name := by
  simp [missingNames, mem_placeholders, mem_declaredPathParameters]

theorem mem_unusedNames : name ∈ unusedNames d site ↔
    d.HasPathParameter site name ∧ ¬IsPlaceholder site.path name := by
  simp [unusedNames, mem_placeholders, mem_declaredPathParameters]

/-- What is found at the parameters of an operation is what is found for this operation. -/
theorem findingsAt_parameters (distinct : d.paths.Distinct) (member : site ∈ d.operations)
    {rule : Rule} (listed : rule ∈ pathParameterRules) (p : Policy) :
    findingsAt rule (site.pointer ++ "/parameters") (paths.run d (Session.start p)).findings =
      (pathParameterFindings d site).filter (·.rule == rule) := by
  have only : ∀ finding : Finding, (finding.rule == rule) = true →
      finding.rule ∈ pathParameterRules := fun finding same => (eq_of_beq same) ▸ listed
  have owned : ∀ site ∈ d.operations,
      ∀ finding ∈ (pathParameterFindings d site).filter (·.rule == rule),
        (finding.location == site.pointer ++ "/parameters") = true := by
    intro site _ finding kept
    have found := List.mem_of_mem_filter kept
    rw [pathParameterFindings_eq, List.mem_append, List.mem_map, List.mem_map] at found
    rcases found with ⟨name, -, rfl⟩ | ⟨name, -, rfl⟩ <;> exact beq_self_eq_true _
  have apart : d.operations.Pairwise fun one two => ∀ finding : Finding,
      (finding.location == one.pointer ++ "/parameters") = true →
        (finding.location == two.pointer ++ "/parameters") = false := by
    refine (d.pairwise_pointer_operations distinct).imp fun differ finding own => ?_
    rw [eq_of_beq own]
    simpa using differ
  rw [findingsAt, filter_pathParameters d p only]
  exact filter_flatMap_of_apart owned apart member

theorem findingsAt_missing (distinct : d.paths.Distinct) (member : site ∈ d.operations)
    (p : Policy) :
    findingsAt .missingPathParameter (site.pointer ++ "/parameters")
        (paths.run d (Session.start p)).findings =
      (missingNames d site).map site.missingParameter := by
  rw [findingsAt_parameters distinct member (by decide), pathParameterFindings_eq]
  simp [List.filter_map, Function.comp_def, OperationSite.missingParameter,
    OperationSite.unusedParameter]

theorem findingsAt_unused (distinct : d.paths.Distinct) (member : site ∈ d.operations)
    (p : Policy) :
    findingsAt .unusedPathParameter (site.pointer ++ "/parameters")
        (paths.run d (Session.start p)).findings =
      (unusedNames d site).map site.unusedParameter := by
  rw [findingsAt_parameters distinct member (by decide), pathParameterFindings_eq]
  simp [List.filter_map, Function.comp_def, OperationSite.missingParameter,
    OperationSite.unusedParameter]

/-- The path parameters of an operation that have no placeholder are reported, and so are the
placeholders in its path that have no path parameter.  Nothing is reported exactly when the
names of both are the same. -/
theorem path_parameters_matched (d : Document) (p : Policy) (distinct : d.paths.Distinct)
    (site : OperationSite) (member : site ∈ d.operations) :
    ∃ missing unused : List String,
      findingsAt .missingPathParameter (site.pointer ++ "/parameters")
          (paths.run d (Session.start p)).findings = missing.map site.missingParameter ∧
      findingsAt .unusedPathParameter (site.pointer ++ "/parameters")
          (paths.run d (Session.start p)).findings = unused.map site.unusedParameter ∧
      (∀ name, name ∈ missing ↔
        IsPlaceholder site.path name ∧ ¬d.HasPathParameter site name) ∧
      (∀ name, name ∈ unused ↔
        d.HasPathParameter site name ∧ ¬IsPlaceholder site.path name) ∧
      (missing = [] ∧ unused = [] ↔
        ∀ name, IsPlaceholder site.path name ↔ d.HasPathParameter site name) := by
  refine ⟨missingNames d site, unusedNames d site, findingsAt_missing distinct member p,
    findingsAt_unused distinct member p, fun _ => mem_missingNames, fun _ => mem_unusedNames, ?_⟩
  simp only [List.eq_nil_iff_forall_not_mem, mem_missingNames, mem_unusedNames, not_and, not_not]
  constructor
  · rintro ⟨noneMissing, noneUnused⟩ name
    exact ⟨noneMissing name, noneUnused name⟩
  · intro same
    exact ⟨fun name => (same name).mp, fun name => (same name).mpr⟩

/-- A listing of the items of a shop.  The shop is given by the path item through two
references, the item only as a query parameter, and the name of one parameter is blank. -/
def itemListing : OperationSite :=
  let operation : Operation :=
    { parameters :=
        [.item { name := some "item", place := .query },
         .item { name := some " ", place := .path },
         .item { name := some "page", place := .path }] }
  { path := "/shops/\x7bshop\x7d/items/\x7bitem\x7d"
    item := { parameters := [.ref "#/components/parameters/Shop"], get := some operation }
    method := .get
    operation }

def shop : Document where
  paths := [(itemListing.path, itemListing.item)]
  components := some
    { parameters :=
        [("Shop", .ref "#/components/parameters/ShopName"),
         ("ShopName", .item { name := some "shop", place := .path })] }

theorem path_parameters_matched_shop :
    (findingsAt .missingPathParameter (itemListing.pointer ++ "/parameters")
        (paths.run shop (Session.start {})).findings = [itemListing.missingParameter "item"] ∧
      findingsAt .unusedPathParameter (itemListing.pointer ++ "/parameters")
        (paths.run shop (Session.start {})).findings = [itemListing.unusedParameter "page"]) ∧
    ¬∀ name, IsPlaceholder itemListing.path name ↔ shop.HasPathParameter itemListing name := by
  obtain ⟨missing, unused, missed, -, -, -, matched⟩ :=
    path_parameters_matched shop {} (List.nodup_singleton _) itemListing (.head _)
  have found : findingsAt .missingPathParameter (itemListing.pointer ++ "/parameters")
      (paths.run shop (Session.start {})).findings = [itemListing.missingParameter "item"] := by
    decide +kernel
  refine ⟨⟨found, by decide +kernel⟩, fun same => ?_⟩
  obtain ⟨none, -⟩ := matched.mpr same
  rw [found, none] at missed
  exact absurd missed (List.cons_ne_nil _ _)

/-- A path parameter without a placeholder is reported once.  A placeholder without a path
parameter is reported once for every stretch of its places, so at most once exactly when no
other placeholder stands between two of them. -/
theorem path_parameter_reports_counted (d : Document) (p : Policy)
    (distinct : d.paths.Distinct) (site : OperationSite) (member : site ∈ d.operations) :
    ∃ missing unused : List String,
      findingsAt .missingPathParameter (site.pointer ++ "/parameters")
          (paths.run d (Session.start p)).findings = missing.map site.missingParameter ∧
      findingsAt .unusedPathParameter (site.pointer ++ "/parameters")
          (paths.run d (Session.start p)).findings = unused.map site.unusedParameter ∧
      unused.Nodup ∧
      (∀ name, d.HasPathParameter site name → missing.count name = 0) ∧
      (∀ name, ¬d.HasPathParameter site name →
        missing.count name = stretches (placeholders site.path) name ∧
          (missing.count name ≤ 1 ↔ Unbroken (placeholders site.path) name)) := by
  refine ⟨missingNames d site, unusedNames d site, findingsAt_missing distinct member p,
    findingsAt_unused distinct member p, ?_, ?_, ?_⟩
  · exact (nodup_firstOccurrences _).filter _
  · intro name has
    exact List.count_eq_zero.mpr fun missing => (mem_missingNames.mp missing).2 has
  · intro name lacks
    have count : (missingNames d site).count name = stretches (placeholders site.path) name := by
      rw [missingNames, List.count_filter, count_dropRepeats]
      simpa [mem_declaredPathParameters] using lacks
    rw [count, stretches_le_one_iff]
    exact ⟨rfl, Iff.rfl⟩

/-- A listing at a path that has a placeholder twice, with another one in between. -/
def repeatedPlaceholder : OperationSite :=
  { path := "/\x7bx\x7d/\x7by\x7d/\x7bx\x7d"
    item := { get := some { operationId := some "list" } }
    method := .get
    operation := { operationId := some "list" } }

theorem path_parameter_reports_counted_repeatedPlaceholder :
    findingsAt .missingPathParameter (repeatedPlaceholder.pointer ++ "/parameters")
        (paths.run { paths := [(repeatedPlaceholder.path, repeatedPlaceholder.item)] }
          (Session.start {})).findings =
      ["x", "y", "x"].map repeatedPlaceholder.missingParameter ∧
    ¬Unbroken (placeholders repeatedPlaceholder.path) "x" := by
  let d : Document := { paths := [(repeatedPlaceholder.path, repeatedPlaceholder.item)] }
  obtain ⟨missing, -, -, -, -, -, counted⟩ :=
    path_parameter_reports_counted d {} (List.nodup_singleton _) repeatedPlaceholder (.head _)
  have lacks : ¬d.HasPathParameter repeatedPlaceholder "x" := by
    rintro ⟨part, member, -⟩
    exact absurd member List.not_mem_nil
  have twice : stretches (placeholders repeatedPlaceholder.path) "x" = 2 := by decide +kernel
  obtain ⟨stretched, once⟩ := counted "x" lacks
  refine ⟨by decide +kernel, fun unbroken => ?_⟩
  have atMostOnce : missing.count "x" ≤ 1 := once.mpr unbroken
  omega

end Checks

end ApiReview
