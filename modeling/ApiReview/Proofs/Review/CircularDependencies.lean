import ApiReview.Proofs.Checks.LoopReports
import ApiReview.Proofs.Checks.Sessions
import ApiReview.Proofs.References.Loops

/-!
# Circular dependencies of a document

A review that filters nothing reports the sets of two or more component schemas
that lie on a common loop of references, each set once.  The report spells a
loop over the set, from its earliest declared name.

References are leaves of a walk: what stands beside a `$ref` inside of the same
node is not looked into, and adds no reference.
-/

namespace ApiReview

open Checks (reportedLoops loopReport)

/-- The policy that keeps every finding. -/
def Policy.unfiltered (p : Policy) : Policy :=
  { p with disabled := [], minSeverity := .info }

/-- The findings about loops of references. -/
def circularDependencies (findings : List Finding) : List Finding :=
  findings.filter (·.rule == .circularDependency)

namespace Document

/-- Two or more names that are the names of an elementary cycle of references. -/
def IsLoopSet (d : Document) (names : Finset String) : Prop :=
  2 ≤ names.card ∧ ∃ cycle : Cycle String, IsElementaryCycle d.RefersTo cycle ∧
    ∀ name, name ∈ cycle ↔ name ∈ names

/-- A finding spells a loop of references from `first` over `rest` and back,
where `first` is declared before the other names and is what the finding is
about. -/
structure SpellsLoop (d : Document) (finding : Finding) (first : String)
    (rest : List String) : Prop where
  declared : ∀ name ∈ first :: rest, name ∈ d.schemas.names
  distinct : (first :: rest).Nodup
  chain : (first :: rest ++ [first]).IsChain d.RefersTo
  earliest : ∀ other ∈ rest, d.schemas.names.idxOf first < d.schemas.names.idxOf other
  message : finding.message =
    "Circular dependency detected: " ++ " -> ".intercalate (first :: rest ++ [first])
  location : finding.location = Pointer.schema first
  component : finding.componentName = some first ∧
    finding.componentPath = some (Pointer.schema first) ∧
    finding.componentType = some "schema"

/-- A finding spells a loop over the given set of names. -/
def Reports (d : Document) (finding : Finding) (names : Finset String) : Prop :=
  ∃ first rest, d.SpellsLoop finding first rest ∧ (first :: rest).toFinset = names

variable {d : Document} {p : Policy}

theorem review_unfiltered (d : Document) (p : Policy) :
    d.review p.unfiltered = d.findings p.unfiltered := by
  unfold review
  refine List.filter_eq_self.mpr fun finding _ => ?_
  simp [Policy.keeps, Policy.unfiltered, Severity.atLeast_info]

/-- The loops that a review reports. -/
def loopsReported (d : Document) : List Loop :=
  reportedLoops [] d.references.loops

theorem circularDependencies_review (d : Document) (p : Policy) :
    circularDependencies (d.review p.unfiltered) = d.loopsReported.map loopReport := by
  obtain ⟨references, reported, fromRules⟩ := Checks.beforeLoops_spec d p.unfiltered
  rw [review_unfiltered, Checks.findings_eq, Checks.findings_loops_run, references,
    reported, circularDependencies, List.filter_append]
  have none : (Checks.beforeLoops d p.unfiltered).findings.filter
      (·.rule == .circularDependency) = [] := fromRules.filter_eq_nil (by decide)
  have all : ∀ finding ∈ d.loopsReported.map loopReport,
      (finding.rule == .circularDependency) = true := by
    intro finding member
    obtain ⟨loop, -, rfl⟩ := List.mem_map.mp member
    rfl
  rw [none, List.nil_append]
  exact List.filter_eq_self.mpr all

theorem rank_references_lt_iff {a b : String} (aDeclared : a ∈ d.schemas.names)
    (bDeclared : b ∈ d.schemas.names) :
    d.references.rank a < d.references.rank b ↔
      d.schemas.names.idxOf a < d.schemas.names.idxOf b := by
  have entered : ∀ name ∈ d.schemas.names, name ∈ d.references.names := by
    intro name declared
    rw [names_references]
    exact mem_firstOccurrences.mpr declared
  unfold ReferenceMap.rank
  rw [ReferenceMap.nodes_eq, idxOf_firstOccurrences_lt_iff
      (List.mem_append_left _ (entered a aDeclared)) (List.mem_append_left _ (entered b bDeclared)),
    List.idxOf_append_of_mem (entered a aDeclared), List.idxOf_append_of_mem (entered b bDeclared),
    names_references, idxOf_firstOccurrences_lt_iff aDeclared bDeclared]

theorem mem_names_of_mem_cycle {cycle : Cycle String} {name : String}
    (elementary : IsElementaryCycle d.RefersTo cycle) (member : name ∈ cycle) :
    name ∈ d.schemas.names := by
  obtain ⟨next, refers⟩ := elementary.exists_related name member
  exact refers.mem_names

/-- The loops of a document are its elementary cycles, each written from its
earliest declared name. -/
theorem mem_loops_references {loop : Loop} :
    loop ∈ d.references.loops ↔ ∃ first rest, loop = first :: rest ++ [first] ∧
      IsElementaryCycle d.RefersTo ↑(first :: rest) ∧
      ∀ other ∈ rest, d.schemas.names.idxOf first < d.schemas.names.idxOf other := by
  have same : d.references.RefersTo = d.RefersTo := by
    funext a b
    exact propext refersTo_references
  rw [d.wellFormed_references.mem_loops, same]
  refine exists_congr fun first => exists_congr fun rest => and_congr_right fun _ =>
    and_congr_right fun elementary => forall₂_congr fun other member => ?_
  exact rank_references_lt_iff (mem_names_of_mem_cycle elementary (by simp))
    (mem_names_of_mem_cycle elementary (by simp [member]))

theorem mem_loop_iff {first : String} {rest : List String} {name : String} :
    name ∈ first :: rest ++ [first] ↔ name ∈ first :: rest := by
  simp [or_comm]

theorem declared_of_mem_loops {loop : Loop} (listed : loop ∈ d.references.loops) :
    loop ≠ [] ∧ ∀ name ∈ loop, name ∈ d.schemas.names := by
  obtain ⟨first, rest, rfl, elementary, -⟩ := mem_loops_references.mp listed
  refine ⟨by simp, fun name member => mem_names_of_mem_cycle elementary ?_⟩
  exact Cycle.mem_coe_iff.mpr (mem_loop_iff.mp member)

/-- A listed loop is an elementary cycle over its names. -/
theorem exists_cycle_of_mem_loops {loop : Loop} (listed : loop ∈ d.references.loops) :
    ∃ cycle : Cycle String, IsElementaryCycle d.RefersTo cycle ∧
      ∀ name, name ∈ loop ↔ name ∈ cycle := by
  obtain ⟨first, rest, rfl, elementary, -⟩ := mem_loops_references.mp listed
  refine ⟨↑(first :: rest), elementary, ?_⟩
  intro name
  rw [mem_loop_iff, Cycle.mem_coe_iff]

/-- Every elementary cycle is listed as a loop over its names. -/
theorem exists_loop_of_elementary {cycle : Cycle String}
    (elementary : IsElementaryCycle d.RefersTo cycle) :
    ∃ loop ∈ d.references.loops, ∀ name, name ∈ loop ↔ name ∈ cycle := by
  obtain ⟨first, rest, rfl, earliest⟩ := exists_lowest_first d.schemas.names.idxOf
    elementary.nonempty elementary.distinct fun a member b _ equal =>
      (List.idxOf_inj (mem_names_of_mem_cycle elementary member)).mp equal
  refine ⟨first :: rest ++ [first],
    mem_loops_references.mpr ⟨first, rest, rfl, elementary, earliest⟩, ?_⟩
  intro name
  rw [mem_loop_iff, Cycle.mem_coe_iff]

theorem reports_loopReport {loop : Loop} (listed : loop ∈ d.references.loops) :
    d.Reports (loopReport loop) loop.toFinset := by
  have declared := (declared_of_mem_loops listed).2
  obtain ⟨first, rest, rfl, elementary, earliest⟩ := mem_loops_references.mp listed
  obtain ⟨distinct, chain⟩ := isElementaryCycle_cons.mp elementary
  refine ⟨first, rest, ?_, ?_⟩
  · exact {
      declared := fun name member => declared name (mem_loop_iff.mpr member)
      distinct := distinct
      chain := chain
      earliest := earliest
      message := rfl
      location := rfl
      component := ⟨rfl, rfl, rfl⟩ }
  · ext name
    rw [List.mem_toFinset, List.mem_toFinset, mem_loop_iff]

/-- The reported keys are those of the elementary cycles of references, as far as
they look like keys of several names. -/
theorem mem_keys_loopsReported {key : String} :
    key ∈ d.loopsReported.map Loop.key ↔
      ∃ loop : Loop, loop.key = key ∧ Checks.hasSeveralNames loop = true ∧
        ∃ cycle : Cycle String, IsElementaryCycle d.RefersTo cycle ∧
          ∀ name, name ∈ loop ↔ name ∈ cycle := by
  rw [loopsReported, Checks.mem_keys_reportedLoops]
  constructor
  · rintro ⟨-, loop, listed, several, same⟩
    exact ⟨loop, same, several, exists_cycle_of_mem_loops listed⟩
  · rintro ⟨loop, rfl, several, cycle, elementary, members⟩
    obtain ⟨other, listed, otherMembers⟩ := exists_loop_of_elementary elementary
    have sameKey : other.key = loop.key := by
      apply Loop.key_congr
      intro name
      rw [otherMembers, members]
    refine ⟨by simp, other, listed, ?_, sameKey⟩
    rw [Checks.hasSeveralNames, sameKey]
    exact several

/-- Without commas in the declared names, the keys of listed loops tell their
sets of names apart. -/
theorem key_eq_iff_toFinset_eq (commaFree : ∀ name ∈ d.schemas.names, CommaFree name)
    {one two : Loop} (oneListed : one ∈ d.references.loops)
    (twoListed : two ∈ d.references.loops) :
    one.key = two.key ↔ one.toFinset = two.toFinset := by
  obtain ⟨oneNonempty, oneDeclared⟩ := declared_of_mem_loops oneListed
  obtain ⟨twoNonempty, twoDeclared⟩ := declared_of_mem_loops twoListed
  rw [Loop.key_eq_iff oneNonempty twoNonempty
      (fun name member => commaFree name (oneDeclared name member))
      (fun name member => commaFree name (twoDeclared name member)), Finset.ext_iff]
  simp

theorem hasSeveralNames_iff (commaFree : ∀ name ∈ d.schemas.names, CommaFree name)
    {loop : Loop} (listed : loop ∈ d.references.loops) :
    Checks.hasSeveralNames loop = true ↔ 2 ≤ loop.toFinset.card := by
  have declared := (declared_of_mem_loops listed).2
  unfold Checks.hasSeveralNames
  rw [Loop.contains_comma_key_iff fun name member => commaFree name (declared name member)]
  change _ ↔ 1 < loop.toFinset.card
  rw [Finset.one_lt_card]
  simp

/-- The reported loops have different sets of names, and these are the loop sets
of the document. -/
theorem toFinset_loopsReported (commaFree : ∀ name ∈ d.schemas.names, CommaFree name) :
    (d.loopsReported.map List.toFinset).Nodup ∧
    ∀ names, names ∈ d.loopsReported.map List.toFinset ↔ d.IsLoopSet names := by
  have listed : ∀ loop ∈ d.loopsReported, loop ∈ d.references.loops := fun loop member =>
    Checks.reportedLoops_sublist.subset member
  constructor
  · refine List.pairwise_map.mpr ?_
    refine List.Pairwise.imp_of_mem ?_ (List.pairwise_map.mp Checks.nodup_keys_reportedLoops)
    intro one two oneMember twoMember differ same
    exact differ ((key_eq_iff_toFinset_eq commaFree (listed one oneMember)
      (listed two twoMember)).mpr same)
  · intro names
    rw [List.mem_map]
    constructor
    · rintro ⟨loop, member, rfl⟩
      have inLoops := listed loop member
      obtain ⟨-, other, -, several, sameKey⟩ :=
        Checks.mem_keys_reportedLoops.mp (List.mem_map_of_mem member)
      -- another loop may have claimed the key, but only the key tells how many names there are
      rw [Checks.hasSeveralNames, sameKey] at several
      refine ⟨(hasSeveralNames_iff commaFree inLoops).mp several, ?_⟩
      obtain ⟨cycle, elementary, members⟩ := exists_cycle_of_mem_loops inLoops
      refine ⟨cycle, elementary, fun name => ?_⟩
      rw [List.mem_toFinset, members]
    · rintro ⟨several, cycle, elementary, same⟩
      obtain ⟨loop, inLoops, members⟩ := exists_loop_of_elementary elementary
      have names_eq : loop.toFinset = names := by
        ext name
        rw [List.mem_toFinset, members, same]
      have reported : Loop.key loop ∈ d.loopsReported.map Loop.key :=
        Checks.mem_keys_reportedLoops.mpr ⟨by simp, _, inLoops,
          (hasSeveralNames_iff commaFree inLoops).mpr (names_eq ▸ several), rfl⟩
      obtain ⟨other, member, sameKey⟩ := List.mem_map.mp reported
      exact ⟨other, member, ((key_eq_iff_toFinset_eq commaFree (listed other member)
        inLoops).mp sameKey).trans names_eq⟩

/-- A review that filters nothing reports the loop sets of a document, one
finding for each set, and each finding spells a loop over its set. -/
theorem review_circularDependencies (d : Document) (p : Policy)
    (commaFree : ∀ name ∈ d.schemas.names, CommaFree name) :
    ∃ sets : List (Finset String),
      List.Forall₂ d.Reports (circularDependencies (d.review p.unfiltered)) sets ∧
      sets.Nodup ∧ ∀ names, names ∈ sets ↔ d.IsLoopSet names := by
  refine ⟨d.loopsReported.map List.toFinset, ?_, toFinset_loopsReported commaFree⟩
  rw [circularDependencies_review, List.forall₂_map_left_iff, List.forall₂_map_right_iff,
    List.forall₂_same]
  exact fun loop member => reports_loopReport (Checks.reportedLoops_sublist.subset member)

/-- A reference to the component schema of the given name. -/
def referenceTo (name : String) : Schema :=
  { reference := some (Pointer.schema name) }

/-- Two component schemas that refer to each other. -/
def twoSchemas : Document where
  components := some
    { schemas := [("A", { properties := [("b", referenceTo "B")] }),
        ("B", { items := some (referenceTo "A") })] }

theorem review_circularDependencies_twoSchemas :
    (∀ name ∈ twoSchemas.schemas.names, CommaFree name) ∧ twoSchemas.IsLoopSet {"A", "B"} ∧
      ∃ sets : List (Finset String),
        List.Forall₂ twoSchemas.Reports
          (circularDependencies (twoSchemas.review (Policy.unfiltered {}))) sets ∧
        sets.Nodup ∧ {"A", "B"} ∈ sets := by
  have commaFree : ∀ name ∈ twoSchemas.schemas.names, CommaFree name := by decide
  have fromA : twoSchemas.RefersTo "A" "B" :=
    ⟨{ properties := [("b", referenceTo "B")] }, referenceTo "B",
      by simp [twoSchemas, schemas, allComponents],
      .single ⟨rfl, .property (List.mem_singleton.mpr rfl)⟩, by decide⟩
  have fromB : twoSchemas.RefersTo "B" "A" :=
    ⟨{ items := some (referenceTo "A") }, referenceTo "A",
      by simp [twoSchemas, schemas, allComponents], .single ⟨rfl, .items rfl⟩, by decide⟩
  have loopSet : twoSchemas.IsLoopSet {"A", "B"} :=
    ⟨by decide, ↑["A", "B"], isElementaryCycle_cons.mpr ⟨by decide, by simp [fromA, fromB]⟩,
      by simp⟩
  obtain ⟨sets, reports, distinct, complete⟩ :=
    review_circularDependencies twoSchemas {} commaFree
  exact ⟨commaFree, loopSet, sets, reports, distinct, (complete _).mpr loopSet⟩

/-- A declared component schema mentions another name: a reference to that name
stands anywhere in its body, beside or below other references too. -/
def Mentions (d : Document) (source target : String) : Prop :=
  ∃ body node, (source, body) ∈ d.schemas ∧ body.Contains node ∧
    node.componentTarget? = some target

/-- Two component schemas that mention each other, one of them beside a `$ref`. -/
def shadowed : Document where
  components := some
    { schemas := [("A", { referenceTo "C" with properties := [("b", referenceTo "B")] }),
        ("B", referenceTo "A"), ("C", {})] }

theorem commaFree_of_mentions_shadowed {source target : String}
    (mentions : shadowed.Mentions source target) : CommaFree target := by
  obtain ⟨body, node, member, contains, refers⟩ := mentions
  simp only [shadowed, schemas, allComponents, Option.getD_some, List.mem_cons, Prod.mk.injEq,
    List.not_mem_nil, or_false] at member
  have alone : ∀ s : Schema, s.children = [] → s.Contains node → node = s := by
    intro s noChildren contains
    rw [Schema.contains_iff, noChildren] at contains
    simpa using contains
  rcases member with ⟨-, rfl⟩ | ⟨-, rfl⟩ | ⟨-, rfl⟩
  · rcases Schema.contains_iff.mp contains with rfl | ⟨⟨slot, child⟩, member, contains⟩
    · cases refers
      decide
    · obtain ⟨-, rfl⟩ : slot = .property "b" ∧ child = referenceTo "B" := by
        simpa [Schema.children, referenceTo] using member
      rw [alone _ rfl contains] at refers
      cases refers
      decide
  · rw [alone _ rfl contains] at refers
    cases refers
    decide
  · rw [alone _ rfl contains] at refers
    cases refers

/-- Names that mention each other in a loop need not be reported: what stands
beside a `$ref` is not looked into. -/
theorem shadowed_loop_unreported :
    (∀ name ∈ shadowed.schemas.names, CommaFree name) ∧
      (∀ source target, shadowed.Mentions source target → CommaFree target) ∧
      IsElementaryCycle shadowed.Mentions ↑["A", "B"] ∧
      circularDependencies (shadowed.review (Policy.unfiltered {})) = [] := by
  refine ⟨by decide, fun _ _ => commaFree_of_mentions_shadowed,
    isElementaryCycle_cons.mpr ⟨by decide, ?_⟩, ?_⟩
  · have fromA : shadowed.Mentions "A" "B" :=
      ⟨{ referenceTo "C" with properties := [("b", referenceTo "B")] }, referenceTo "B",
        by simp [shadowed, schemas, allComponents],
        .single (.property (List.mem_singleton.mpr rfl)), by decide⟩
    have fromB : shadowed.Mentions "B" "A" :=
      ⟨referenceTo "A", referenceTo "A", by simp [shadowed, schemas, allComponents], .refl,
        by decide⟩
    simp [fromA, fromB]
  · have noLoops : shadowed.references.loops = [] := by decide
    rw [circularDependencies_review, loopsReported, noLoops]
    rfl

end Document

end ApiReview
