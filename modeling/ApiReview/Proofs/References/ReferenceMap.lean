import ApiReview.Proofs.Table
import ApiReview.Review.Session
import Mathlib.Data.String.Basic
import Mathlib.Data.List.Sort

/-!
# Reference maps

A reference map that is built entry by entry holds every source once, and the
targets of each source once and in ascending order.  Entering a reference adds
exactly that reference, and sources stand in the order in which they came up.
-/

namespace ApiReview.ReferenceMap

/-- One name refers to another one. -/
def RefersTo (m : ReferenceMap) (source target : String) : Prop :=
  ∃ targets, (source, targets) ∈ m ∧ target ∈ targets

/-- Every source occurs once, and its targets are strictly ascending. -/
structure WellFormed (m : ReferenceMap) : Prop where
  distinct : Table.Distinct m
  ascending : ∀ source targets, (source, targets) ∈ m → targets.Pairwise (· < ·)

section InsertName

variable {name other : String} {names : List String}

@[simp]
theorem mem_insertName : other ∈ insertName name names ↔ other = name ∨ other ∈ names := by
  induction names with
  | nil => simp [insertName]
  | cons first rest ih =>
      unfold insertName
      split_ifs with before same
      · simp
      · simp [same]
      · simp only [List.mem_cons, ih]
        tauto

theorem pairwise_insertName (ascending : names.Pairwise (· < ·)) :
    (insertName name names).Pairwise (· < ·) := by
  induction names with
  | nil => simp [insertName]
  | cons first rest ih =>
      obtain ⟨firstLt, restAscending⟩ := List.pairwise_cons.mp ascending
      unfold insertName
      split_ifs with before same
      · refine List.pairwise_cons.mpr ⟨?_, ascending⟩
        intro later member
        rcases List.mem_cons.mp member with rfl | member
        · exact before
        · exact lt_trans before (firstLt later member)
      · exact ascending
      · refine List.pairwise_cons.mpr ⟨?_, ih restAscending⟩
        intro later member
        rcases mem_insertName.mp member with rfl | member
        · exact lt_of_le_of_ne (le_of_not_gt before) (Ne.symm same)
        · exact firstLt later member

end InsertName

variable {m : ReferenceMap} {name source target a b : String}

theorem RefersTo.mem_names (refers : m.RefersTo a b) : a ∈ m.names := by
  obtain ⟨targets, entry, -⟩ := refers
  exact Table.mem_names entry

theorem WellFormed.nil : WellFormed [] :=
  ⟨List.nodup_nil, by simp⟩

theorem names_register :
    (m.register name).names = if name ∈ m.names then m.names else m.names ++ [name] := by
  unfold register
  by_cases known : name ∈ m.names
  · simp [Table.has_iff.mpr known, known]
  · have unknown : m.has name = false := by
      simpa using fun has => known (Table.has_iff.mp has)
    rw [if_neg known]
    simp [unknown, Table.names]

theorem refersTo_register : (m.register name).RefersTo a b ↔ m.RefersTo a b := by
  unfold register RefersTo
  split_ifs
  · rfl
  · constructor
    · rintro ⟨targets, entry, member⟩
      rcases List.mem_append.mp entry with entry | entry
      · exact ⟨targets, entry, member⟩
      · simp only [List.mem_singleton, Prod.mk.injEq] at entry
        simp [entry.2] at member
    · rintro ⟨targets, entry, member⟩
      exact ⟨targets, List.mem_append_left _ entry, member⟩

theorem WellFormed.register (wellFormed : m.WellFormed) : (m.register name).WellFormed := by
  constructor
  · unfold Table.Distinct
    rw [names_register]
    split_ifs with known
    · exact wellFormed.distinct
    · exact List.Nodup.append wellFormed.distinct (List.nodup_singleton name)
        (by simpa using known)
  · intro source targets entry
    unfold ReferenceMap.register at entry
    split_ifs at entry
    · exact wellFormed.ascending source targets entry
    · rcases List.mem_append.mp entry with entry | entry
      · exact wellFormed.ascending source targets entry
      · simp only [List.mem_singleton, Prod.mk.injEq] at entry
        simp [entry.2]

theorem names_add : (m.add source target).names = (m.register source).names := by
  unfold add Table.names
  rw [List.map_map]
  refine List.map_congr_left fun entry _ => ?_
  simp only [Function.comp_apply]
  split_ifs <;> rfl

theorem mem_names_register : a ∈ (m.register name).names ↔ a = name ∨ a ∈ m.names := by
  rw [names_register]
  split_ifs with known
  · constructor
    · exact Or.inr
    · rintro (rfl | member)
      · exact known
      · exact member
  · simp [or_comm]

/-- Adding a reference adds that reference and no other one. -/
theorem refersTo_add :
    (m.add source target).RefersTo a b ↔ m.RefersTo a b ∨ a = source ∧ b = target := by
  unfold add
  constructor
  · rintro ⟨targets, entry, member⟩
    obtain ⟨⟨name, old⟩, oldEntry, equal⟩ := List.mem_map.mp entry
    by_cases same : name = source
    · simp only [if_pos same, Prod.mk.injEq] at equal
      obtain ⟨rfl, rfl⟩ := equal
      rcases mem_insertName.mp member with rfl | member
      · exact Or.inr ⟨same, rfl⟩
      · exact Or.inl (refersTo_register.mp ⟨old, oldEntry, member⟩)
    · simp only [if_neg same, Prod.mk.injEq] at equal
      obtain ⟨rfl, rfl⟩ := equal
      exact Or.inl (refersTo_register.mp ⟨old, oldEntry, member⟩)
  · rintro (refers | ⟨rfl, rfl⟩)
    · have registered : (m.register source).RefersTo a b := refersTo_register.mpr refers
      obtain ⟨targets, entry, member⟩ := registered
      by_cases same : a = source
      · refine ⟨insertName target targets, List.mem_map.mpr ⟨_, entry, by simp [same]⟩, ?_⟩
        exact mem_insertName.mpr (Or.inr member)
      · exact ⟨targets, List.mem_map.mpr ⟨_, entry, by simp [same]⟩, member⟩
    · have registered : a ∈ (m.register a).names := mem_names_register.mpr (Or.inl rfl)
      obtain ⟨targets, entry⟩ := Table.exists_of_mem_names registered
      exact ⟨insertName b targets, List.mem_map.mpr ⟨_, entry, by simp⟩,
        mem_insertName.mpr (Or.inl rfl)⟩

theorem WellFormed.add (wellFormed : m.WellFormed) : (m.add source target).WellFormed := by
  have registered : (m.register source).WellFormed := wellFormed.register
  constructor
  · unfold Table.Distinct
    rw [names_add]
    exact registered.distinct
  · intro name targets entry
    obtain ⟨⟨name', old⟩, oldEntry, equal⟩ := List.mem_map.mp entry
    have oldAscending := registered.ascending name' old oldEntry
    by_cases same : name' = source
    · simp only [if_pos same, Prod.mk.injEq] at equal
      exact equal.2 ▸ pairwise_insertName oldAscending
    · simp only [if_neg same, Prod.mk.injEq] at equal
      exact equal.2 ▸ oldAscending

end ApiReview.ReferenceMap
