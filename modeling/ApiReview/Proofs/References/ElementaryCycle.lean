import Mathlib.Data.Finset.Max
import Mathlib.Data.List.Cycle
import Mathlib.Logic.Relation

/-!
# Elementary cycles

An elementary cycle of a relation runs through distinct elements, each related
to the next one and the last one to the first.  It has no beginning, so it is a
list up to rotation.  Once the elements are ranked, every elementary cycle has
exactly one list that begins with its element of the lowest rank.
-/

namespace ApiReview

variable {α : Type} {related : α → α → Prop}

/-- A cycle through distinct elements, at least one of them, in which each
element is related to the next one. -/
structure IsElementaryCycle (related : α → α → Prop) (cycle : Cycle α) : Prop where
  nonempty : cycle ≠ .nil
  distinct : cycle.Nodup
  chain : cycle.Chain related

theorem isElementaryCycle_cons {first : α} {rest : List α} :
    IsElementaryCycle related ↑(first :: rest) ↔
      (first :: rest).Nodup ∧ (first :: rest ++ [first]).IsChain related := by
  constructor
  · rintro ⟨-, distinct, chain⟩
    exact ⟨Cycle.nodup_coe_iff.mp distinct, (Cycle.chain_coe_cons ..).mp chain⟩
  · rintro ⟨distinct, chain⟩
    exact ⟨by simp, Cycle.nodup_coe_iff.mpr distinct, (Cycle.chain_coe_cons ..).mpr chain⟩

theorem IsElementaryCycle.exists_related {cycle : Cycle α}
    (elementary : IsElementaryCycle related cycle) (element : α) (member : element ∈ cycle) :
    ∃ next, related element next := by
  induction cycle using Quotient.inductionOn' with | h names =>
  obtain ⟨before, after, rfl⟩ := List.append_of_mem (Cycle.mem_coe_iff.mp member)
  have rotated : (↑(before ++ element :: after) : Cycle α) = ↑(element :: (after ++ before)) :=
    Cycle.coe_eq_coe.mpr (List.isRotated_append : before ++ element :: after ~r _)
  have chain := elementary.chain
  rw [Cycle.mk''_eq_coe, rotated, Cycle.chain_coe_cons] at chain
  cases tail : after ++ before with
  | nil => exact ⟨element, by simpa [tail] using chain⟩
  | cons next others =>
      rw [tail, List.cons_append] at chain
      exact ⟨next, (List.isChain_cons_cons.mp chain).1⟩

section Rank

/-- Some list of a cycle begins with its element of the lowest rank. -/
theorem exists_lowest_first (rank : α → Nat) {cycle : Cycle α} (nonempty : cycle ≠ .nil)
    (distinct : cycle.Nodup) (injective : ∀ a ∈ cycle, ∀ b ∈ cycle, rank a = rank b → a = b) :
    ∃ first rest, (↑(first :: rest) : Cycle α) = cycle ∧
      ∀ other ∈ rest, rank first < rank other := by
  classical
  induction cycle using Quotient.inductionOn' with | h names =>
  rw [Cycle.mk''_eq_coe] at nonempty distinct injective ⊢
  obtain ⟨first, member, lowest⟩ := names.toFinset.exists_min_image rank
    (List.toFinset_nonempty_iff names |>.mpr (by simpa using nonempty))
  obtain ⟨before, after, rfl⟩ := List.append_of_mem (List.mem_toFinset.mp member)
  refine ⟨first, after ++ before, Cycle.coe_eq_coe.mpr ?_, ?_⟩
  · exact (List.isRotated_append : first :: after ++ before ~r _)
  · intro other otherMember
    have inNames : other ∈ before ++ first :: after := by
      simp only [List.mem_append, List.mem_cons] at otherMember ⊢
      tauto
    refine lt_of_le_of_ne (lowest other (List.mem_toFinset.mpr inNames)) fun equal => ?_
    have same := injective first (by simp) other inNames equal
    subst same
    rw [Cycle.nodup_coe_iff, List.nodup_middle, List.nodup_cons] at distinct
    simp only [List.mem_append] at otherMember distinct
    tauto

/-- Two lists of a cycle that begin with its element of the lowest rank are
equal. -/
theorem lowest_first_unique {rank : α → Nat} {first first' : α} {rest rest' : List α}
    (distinct : (first :: rest).Nodup)
    (same : (↑(first :: rest) : Cycle α) = ↑(first' :: rest'))
    (lowest : ∀ other ∈ rest, rank first < rank other)
    (lowest' : ∀ other ∈ rest', rank first' < rank other) :
    first :: rest = first' :: rest' := by
  have rotated : first :: rest ~r first' :: rest' := Cycle.coe_eq_coe.mp same
  have firstEq : first = first' := by
    have inSecond : first ∈ first' :: rest' := rotated.mem_iff.mp (by simp)
    have inFirst : first' ∈ first :: rest := rotated.mem_iff.mpr (by simp)
    rcases List.mem_cons.mp inSecond with equal | later
    · exact equal
    · rcases List.mem_cons.mp inFirst with equal | later'
      · exact equal.symm
      · have := lowest first' later'
        have := lowest' first later
        omega
  subst firstEq
  obtain ⟨shift, bound, equal⟩ := List.isRotated_iff_mod.mp rotated
  rcases Nat.lt_or_eq_of_le bound with inside | full
  · -- the rotation puts the element at `shift` first, and only index 0 holds `first`
    have headAt : (first :: rest)[shift]? = some first := by
      rw [← List.head?_rotate inside, equal, List.head?_cons]
    have zeroth : (first :: rest)[shift] = (first :: rest)[0] := by
      simpa using List.getElem_eq_iff inside |>.mpr headAt
    have atZero : shift = 0 := distinct.getElem_inj_iff.mp zeroth
    rw [← equal, atZero, List.rotate_zero]
  · rw [← equal, full, List.rotate_length]

end Rank

end ApiReview
