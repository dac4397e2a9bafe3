import Mathlib.Data.List.Nodup
import Mathlib.Data.List.Induction

/-!
# First occurrences

Several lists are built by putting each element at the end unless it is there.
The result holds the elements of the source once, in the order of their first
occurrences.
-/

namespace ApiReview

variable {α : Type} [BEq α] [LawfulBEq α]

/-- The elements of a list without repetition, in the order of their first
occurrences. -/
def firstOccurrences (items : List α) : List α :=
  items.foldl (fun found item => if found.contains item then found else found ++ [item]) []

theorem firstOccurrences_concat (items : List α) (item : α) :
    firstOccurrences (items ++ [item]) =
      if (firstOccurrences items).contains item then firstOccurrences items
      else firstOccurrences items ++ [item] := by
  simp [firstOccurrences]

@[simp]
theorem mem_firstOccurrences {items : List α} {item : α} :
    item ∈ firstOccurrences items ↔ item ∈ items := by
  induction items using List.reverseRecOn with
  | nil => simp [firstOccurrences]
  | append_singleton items last ih =>
      rw [firstOccurrences_concat]
      split_ifs with known
      · have lastMember : last ∈ firstOccurrences items := by simpa using known
        constructor
        · intro member
          exact List.mem_append_left _ (ih.mp member)
        · intro member
          rcases List.mem_append.mp member with member | member
          · exact ih.mpr member
          · rw [List.mem_singleton.mp member]
            exact lastMember
      · simp [ih]

theorem nodup_firstOccurrences (items : List α) : (firstOccurrences items).Nodup := by
  induction items using List.reverseRecOn with
  | nil => simp [firstOccurrences]
  | append_singleton items last ih =>
      rw [firstOccurrences_concat]
      split_ifs with known
      · exact ih
      · exact List.Nodup.append ih (List.nodup_singleton last) (by simpa using known)

theorem firstOccurrences_of_nodup {items : List α} (distinct : items.Nodup) :
    firstOccurrences items = items := by
  induction items using List.reverseRecOn with
  | nil => rfl
  | append_singleton items last ih =>
      obtain ⟨earlier, -, disjoint⟩ := List.nodup_append.mp distinct
      have fresh : last ∉ items := fun member => disjoint last member last (by simp) rfl
      rw [firstOccurrences_concat, ih earlier, if_neg (by simpa using fresh)]

theorem idxOf_firstOccurrences_lt_iff {items : List α} {first second : α}
    (firstMember : first ∈ items) (secondMember : second ∈ items) :
    (firstOccurrences items).idxOf first < (firstOccurrences items).idxOf second ↔
      items.idxOf first < items.idxOf second := by
  induction items using List.reverseRecOn with
  | nil => simp at firstMember
  | append_singleton items last ih =>
      rw [firstOccurrences_concat]
      by_cases known : last ∈ items
      · have inItems : ∀ item ∈ items ++ [last], item ∈ items := by
          intro item member
          rcases List.mem_append.mp member with member | member
          · exact member
          · rwa [List.mem_singleton.mp member]
        have firstIn := inItems first firstMember
        have secondIn := inItems second secondMember
        rw [if_pos (by simpa using known), List.idxOf_append_of_mem firstIn,
          List.idxOf_append_of_mem secondIn]
        exact ih firstIn secondIn
      · rw [if_neg (by simpa using known)]
        have lastAt : ∀ found : List α, last ∉ found →
            (found ++ [last]).idxOf last = found.length := by
          intro found absent
          rw [List.idxOf_append_of_notMem absent, List.idxOf_cons_self, Nat.add_zero]
        have before : ∀ (found : List α) (item : α), item ∈ found →
            (found ++ [last]).idxOf item < found.length := by
          intro found item member
          rw [List.idxOf_append_of_mem member]
          exact List.idxOf_lt_length_of_mem member
        rcases List.mem_append.mp firstMember with firstIn | firstIn <;>
          rcases List.mem_append.mp secondMember with secondIn | secondIn
        · rw [List.idxOf_append_of_mem firstIn, List.idxOf_append_of_mem secondIn,
            List.idxOf_append_of_mem (mem_firstOccurrences.mpr firstIn),
            List.idxOf_append_of_mem (mem_firstOccurrences.mpr secondIn)]
          exact ih firstIn secondIn
        · rw [List.mem_singleton.mp secondIn, lastAt items known,
            lastAt (firstOccurrences items) (by simpa using known)]
          exact iff_of_true (before _ first (mem_firstOccurrences.mpr firstIn))
            (before _ first firstIn)
        · rw [List.mem_singleton.mp firstIn, lastAt items known,
            lastAt (firstOccurrences items) (by simpa using known)]
          exact iff_of_false
            (Nat.not_lt_of_lt (before _ second (mem_firstOccurrences.mpr secondIn)))
            (Nat.not_lt_of_lt (before _ second secondIn))
        · rw [List.mem_singleton.mp firstIn, List.mem_singleton.mp secondIn]
          simp

end ApiReview
