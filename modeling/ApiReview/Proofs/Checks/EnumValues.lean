import ApiReview.Checks.Enums
import Mathlib.Data.Finset.Card

/-!
# Kinds of enum values

What is found about a list of enum values depends on the kinds that occur among them, and on
whether there is none of them, one, or several.  So neither their order nor the repetition
of one of several values matters.
-/

namespace ApiReview

open Json (Value Kind)

namespace Checks

variable {values others : List Value} {location : String} {kind : Kind}

theorem mem_occurringKinds : kind ∈ occurringKinds values ↔ ∃ v ∈ values, v.kind = kind := by
  simp [occurringKinds, Kind.mem_all]

theorem occurringKinds_congr
    (same : ∀ kind, (∃ v ∈ values, v.kind = kind) ↔ ∃ v ∈ others, v.kind = kind) :
    occurringKinds values = occurringKinds others := by
  apply List.filter_congr
  intro kind _
  rw [Bool.eq_iff_iff]
  simpa using same kind

theorem occurringKinds_sublist (values : List Value) :
    (occurringKinds values).Sublist Kind.all :=
  List.filter_sublist

theorem enumValueFindings_congr
    (sizes : min values.length 2 = min others.length 2)
    (same : ∀ kind, (∃ v ∈ values, v.kind = kind) ↔ ∃ v ∈ others, v.kind = kind) :
    enumValueFindings values location = enumValueFindings others location := by
  have none : values.isEmpty = others.isEmpty := by
    rw [Bool.eq_iff_iff, List.isEmpty_iff_length_eq_zero, List.isEmpty_iff_length_eq_zero]
    omega
  have one : (values.length == 1) = (others.length == 1) := by
    rw [Bool.eq_iff_iff, beq_iff_eq, beq_iff_eq]
    omega
  have several : decide (values.length > 1) = decide (others.length > 1) := by
    rw [decide_eq_decide]
    omega
  unfold enumValueFindings
  rw [none, one, several, occurringKinds_congr same]

/-- The kinds other than null that occur among some values, in the order of kinds. -/
def typedKinds (values : List Value) : List Kind :=
  (occurringKinds values).filter (· != .null)

theorem mem_typedKinds :
    kind ∈ typedKinds values ↔ kind ≠ .null ∧ ∃ v ∈ values, v.kind = kind := by
  simp [typedKinds, mem_occurringKinds, and_comm]

theorem typedKinds_sublist (values : List Value) : (typedKinds values).Sublist Kind.all :=
  List.filter_sublist.trans (occurringKinds_sublist values)

theorem one_lt_length_typedKinds_iff : 1 < (typedKinds values).length ↔
    ∃ v ∈ values, ∃ w ∈ values, v.kind ≠ .null ∧ w.kind ≠ .null ∧ v.kind ≠ w.kind := by
  have nodup : (typedKinds values).Nodup := (typedKinds_sublist values).nodup (by decide)
  rw [← List.toFinset_card_of_nodup nodup, Finset.one_lt_card]
  simp only [List.mem_toFinset, mem_typedKinds]
  constructor
  · rintro ⟨_, ⟨typed, v, member, rfl⟩, _, ⟨alsoTyped, w, alsoMember, rfl⟩, differ⟩
    exact ⟨v, member, w, alsoMember, typed, alsoTyped, differ⟩
  · rintro ⟨v, member, w, alsoMember, typed, alsoTyped, differ⟩
    exact ⟨_, ⟨typed, v, member, rfl⟩, _, ⟨alsoTyped, w, alsoMember, rfl⟩, differ⟩

theorem kind_eq_bool_iff {v : Value} : v.kind = .bool ↔ ∃ b, v = .bool b := by
  cases v <;> simp [Value.kind]

theorem kind_eq_array_iff {v : Value} : v.kind = .array ↔ ∃ items, v = .array items := by
  cases v <;> simp [Value.kind]

theorem occurringKinds_eq_bool_iff :
    occurringKinds values = [.bool] ↔ values ≠ [] ∧ ∀ v ∈ values, ∃ b, v = .bool b := by
  constructor
  · intro only
    constructor
    · rintro rfl
      cases only
    · intro v member
      have occurs : v.kind ∈ occurringKinds values := mem_occurringKinds.mpr ⟨v, member, rfl⟩
      rw [only, List.mem_singleton] at occurs
      exact kind_eq_bool_iff.mp occurs
  · rintro ⟨filled, flags⟩
    -- the same kinds occur in a list of one truth value
    have same : occurringKinds values = occurringKinds [.bool true] := by
      apply occurringKinds_congr
      intro kind
      obtain ⟨first, member⟩ := List.exists_mem_of_ne_nil values filled
      simp only [List.mem_singleton, exists_eq_left]
      constructor
      · rintro ⟨v, listed, rfl⟩
        exact (kind_eq_bool_iff.mpr (flags v listed)).symm
      · rintro rfl
        exact ⟨first, member, kind_eq_bool_iff.mpr (flags first member)⟩
    rw [same]
    rfl

/-- The rules that some values break, in the order in which they are looked at. -/
theorem rules_enumValueFindings (filled : values ≠ []) :
    (enumValueFindings values location).map Finding.rule =
      (if values.length = 1 then [.singleValueEnum] else []) ++
      (if 1 < values.length ∧ occurringKinds values = [.bool] then [.booleanEnum] else []) ++
      (if (occurringKinds values).contains .array then [.nestedArrayEnum] else []) ++
      (if 1 < (typedKinds values).length then [.mixedTypeEnum] else []) := by
  have notEmpty : values.isEmpty = false := by simpa using filled
  unfold enumValueFindings
  rw [notEmpty]
  simp only [Bool.false_eq_true, if_false, List.map_append, apply_ite (List.map Finding.rule),
    List.map_cons, List.map_nil, Finding.of, beq_iff_eq, Bool.and_eq_true, decide_eq_true_eq,
    gt_iff_lt, typedKinds]
  congr

/-- The finding that values are of several kinds. -/
def mixedKinds (kinds : List Kind) (location : String) : Finding :=
  .of .mixedTypeEnum
    ("Enum mixes value types (" ++ ", ".intercalate (kinds.map Kind.word) ++ ")") location

/-- What the findings about a list of enum values say. -/
structure EnumReport (values : List Value) (location : String) (findings : List Finding) :
    Prop where
  mixed : .mixedTypeEnum ∈ findings.map Finding.rule ↔
    ∃ v ∈ values, ∃ w ∈ values, v.kind ≠ .null ∧ w.kind ≠ .null ∧ v.kind ≠ w.kind
  named : ∃ kinds : List Kind, kinds.Sublist Kind.all ∧
    (∀ kind, kind ∈ kinds ↔ kind ≠ .null ∧ ∃ v ∈ values, v.kind = kind) ∧
    ∀ finding ∈ findings, finding.rule = .mixedTypeEnum → finding = mixedKinds kinds location
  flags : .booleanEnum ∈ findings.map Finding.rule ↔
    1 < values.length ∧ ∀ v ∈ values, ∃ b, v = .bool b
  nested : .nestedArrayEnum ∈ findings.map Finding.rule ↔ ∃ items, .array items ∈ values
  once : (findings.map Finding.rule).Nodup
  empty : values = [] → findings = [.of .emptyEnum "Enum declares no values" location]

theorem ite_sublist {α : Type} (condition : Prop) [Decidable condition] (a : α) :
    (if condition then [a] else []).Sublist [a] := by
  split <;> simp

theorem nodup_rules_enumValueFindings :
    ((enumValueFindings values location).map Finding.rule).Nodup := by
  by_cases filled : values = []
  · subst filled
    exact List.nodup_singleton _
  · have rules : ((enumValueFindings values location).map Finding.rule).Sublist
        [.singleValueEnum, .booleanEnum, .nestedArrayEnum, .mixedTypeEnum] := by
      rw [rules_enumValueFindings filled]
      exact (((ite_sublist _ _).append (ite_sublist _ _)).append (ite_sublist _ _)).append
        (ite_sublist _ _)
    exact rules.nodup (by decide)

theorem mixedTypeEnum_mem_rules_iff :
    .mixedTypeEnum ∈ (enumValueFindings values location).map Finding.rule ↔
      1 < (typedKinds values).length := by
  by_cases filled : values = []
  · subst filled
    simp [enumValueFindings, Finding.of, typedKinds, occurringKinds]
  · rw [rules_enumValueFindings filled]
    simp

theorem booleanEnum_mem_rules_iff :
    .booleanEnum ∈ (enumValueFindings values location).map Finding.rule ↔
      1 < values.length ∧ occurringKinds values = [.bool] := by
  by_cases filled : values = []
  · subst filled
    simp [enumValueFindings, Finding.of]
  · rw [rules_enumValueFindings filled]
    simp

theorem nestedArrayEnum_mem_rules_iff :
    .nestedArrayEnum ∈ (enumValueFindings values location).map Finding.rule ↔
      .array ∈ occurringKinds values := by
  by_cases filled : values = []
  · subst filled
    simp [enumValueFindings, Finding.of, occurringKinds]
  · rw [rules_enumValueFindings filled]
    simp

theorem eq_mixedKinds {finding : Finding} (found : finding ∈ enumValueFindings values location)
    (mixed : finding.rule = .mixedTypeEnum) :
    finding = mixedKinds (typedKinds values) location := by
  unfold enumValueFindings at found
  split at found
  · rw [List.mem_singleton] at found
    subst found
    cases mixed
  · simp only [List.mem_append, List.mem_ite_nil_right, List.mem_singleton] at found
    obtain ((⟨-, rfl⟩ | ⟨-, rfl⟩) | ⟨-, rfl⟩) | ⟨-, rfl⟩ := found
    · cases mixed
    · cases mixed
    · cases mixed
    · rfl

theorem enumReport_enumValueFindings :
    EnumReport values location (enumValueFindings values location) where
  mixed := mixedTypeEnum_mem_rules_iff.trans one_lt_length_typedKinds_iff
  named := ⟨typedKinds values, typedKinds_sublist values, fun _ => mem_typedKinds,
    fun _ found mixed => eq_mixedKinds found mixed⟩
  flags := by
    rw [booleanEnum_mem_rules_iff, occurringKinds_eq_bool_iff]
    constructor
    · rintro ⟨several, -, flags⟩
      exact ⟨several, flags⟩
    · rintro ⟨several, flags⟩
      exact ⟨several, List.ne_nil_of_length_pos (by omega), flags⟩
  nested := by
    rw [nestedArrayEnum_mem_rules_iff, mem_occurringKinds]
    constructor
    · rintro ⟨v, member, array⟩
      obtain ⟨items, rfl⟩ := kind_eq_array_iff.mp array
      exact ⟨items, member⟩
    · rintro ⟨items, member⟩
      exact ⟨.array items, member, rfl⟩
  once := nodup_rules_enumValueFindings
  empty := by
    rintro rfl
    rfl

theorem enumValueFindings_perm {reordered : List Value} (perm : reordered.Perm values) :
    enumValueFindings reordered location = enumValueFindings values location := by
  apply enumValueFindings_congr
  · rw [perm.length_eq]
  · intro kind
    simp only [perm.mem_iff]

theorem enumValueFindings_append_copy {v : Value} (several : 2 ≤ values.length)
    (member : v ∈ values) :
    enumValueFindings (values ++ [v]) location = enumValueFindings values location := by
  apply enumValueFindings_congr
  · simp only [List.length_append, List.length_singleton]
    omega
  · intro kind
    constructor
    · rintro ⟨w, listed, rfl⟩
      rcases List.mem_append.mp listed with old | copied
      · exact ⟨w, old, rfl⟩
      · exact ⟨v, member, by rw [List.mem_singleton.mp copied]⟩
    · rintro ⟨w, listed, rfl⟩
      exact ⟨w, List.mem_append_left _ listed, rfl⟩

/-- The findings about the values that a schema lists say which kinds occur among them.  They
stay the same under every reordering, and when another copy of one of several values is
added. -/
theorem enum_findings_by_kind (s : Schema) (values : List Value) (location : String)
    (listed : s.enumValues = some values) :
    EnumReport values location (enumFindings s location) ∧
    (∀ reordered : List Value, reordered.Perm values →
      enumFindings { s with enumValues := some reordered } location = enumFindings s location) ∧
    (2 ≤ values.length → ∀ v ∈ values,
      enumFindings { s with enumValues := some (values ++ [v]) } location =
        enumFindings s location) := by
  have findings : enumFindings s location = enumValueFindings values location := by
    simp only [enumFindings, listed]
  rw [findings]
  refine ⟨enumReport_enumValueFindings, ?_, ?_⟩
  · intro reordered perm
    exact enumValueFindings_perm perm
  · intro several v member
    exact enumValueFindings_append_copy several member

theorem enum_findings_by_kind_nested :
    ((.mixedTypeEnum ∈
        (enumFindings { enumValues := some [.null, .array [.null], .bool true] } "#").map
          Finding.rule) ∧
      .booleanEnum ∉
        (enumFindings { enumValues := some [.null, .array [.null], .bool true] } "#").map
          Finding.rule) ∧
    enumFindings { enumValues := some [.bool true, .null, .array [.null]] } "#" =
      enumFindings { enumValues := some [.null, .array [.null], .bool true] } "#" ∧
    enumFindings { enumValues := some [.null, .array [.null], .bool true, .null] } "#" =
      enumFindings { enumValues := some [.null, .array [.null], .bool true] } "#" := by
  obtain ⟨report, reordering, copying⟩ := enum_findings_by_kind
    { enumValues := some [.null, .array [.null], .bool true] } [.null, .array [.null], .bool true]
    "#" rfl
  refine ⟨⟨?_, ?_⟩, ?_, ?_⟩
  · exact report.mixed.mpr ⟨.array [.null], by simp, .bool true, by simp, by decide, by decide,
      by decide⟩
  · intro reported
    obtain ⟨b, isBool⟩ := (report.flags.mp reported).2 .null (by simp)
    cases isBool
  · apply reordering
    have turned : ∀ first second third : Value,
        [third, first, second].Perm [first, second, third] := by
      intro first second third
      exact (List.perm_append_singleton third [first, second]).symm
    exact turned _ _ _
  · exact copying (by decide) .null (by simp)

end Checks

end ApiReview
