import ApiReview.Document.Reference
import ApiReview.Proofs.Table
import ApiReview.Proofs.Text.Cut
import Mathlib.Data.List.Perm.Subperm

/-!
# Chains of references

A part that is given by reference stands in a table under the last segment of the
reference, and what stands there may be a reference again.  Such a chain does not
branch, so one that ends at an item passes every entry of the table at most once.
Hence the bound on the length of a chain cuts off nothing in a small table.
-/

namespace ApiReview.RefOr

variable {α : Type} {table : Table (RefOr α)} {part middle last : RefOr α} {value : α}
  {reference name : String} {names front rest : List String}

/-- The last segment of a reference: all of it, or what follows its last slash. -/
def LastSegment (reference name : String) : Prop :=
  '/' ∉ name.toList ∧ (reference = name ∨ ∃ front, reference = front ++ "/" ++ name)

/-- Following references leads from one part to another one, over the entries of a
table that have the given names. -/
inductive Chain (table : Table (RefOr α)) : List String → RefOr α → RefOr α → Prop where
  | here (part : RefOr α) : Chain table [] part part
  | hop {reference name : String} {names : List String} {next last : RefOr α}
      (segment : LastSegment reference name) (found : table.get? name = some next)
      (chain : Chain table names next last) :
      Chain table (name :: names) (.ref reference) last

/-- Following references from a part gets to one from which it leads back to the same. -/
def Loops (table : Table (RefOr α)) (part : RefOr α) : Prop :=
  ∃ names middle round, Chain table names part middle ∧ round ≠ [] ∧
    Chain table round middle middle

/-- Following references from a part gets to one whose name is not in the table. -/
def Dangles (table : Table (RefOr α)) (part : RefOr α) : Prop :=
  ∃ names reference name, Chain table names part (.ref reference) ∧
    LastSegment reference name ∧ name ∉ table.names

theorem lastSegment_iff : LastSegment reference name ↔ key reference = name := by
  unfold LastSegment key
  constructor
  · rintro ⟨noSlash, rfl | ⟨front, rfl⟩⟩
    · exact Text.afterLast_of_notMem noSlash
    · exact Text.afterLast_append noSlash
  · rintro rfl
    exact ⟨Text.notMem_afterLast '/' reference, Text.eq_afterLast_or_append '/' reference⟩

namespace Chain

theorem append_iff :
    Chain table (front ++ rest) part last ↔
      ∃ middle, Chain table front part middle ∧ Chain table rest middle last := by
  induction front generalizing part with
  | nil =>
      constructor
      · intro chain
        exact ⟨part, .here part, chain⟩
      · rintro ⟨middle, ⟨⟩, chain⟩
        exact chain
  | cons name front ih =>
      constructor
      · rintro (_ | ⟨segment, found, chain⟩)
        obtain ⟨middle, first, second⟩ := ih.mp chain
        exact ⟨middle, .hop segment found first, second⟩
      · rintro ⟨middle, _ | ⟨segment, found, first⟩, second⟩
        exact .hop segment found (ih.mpr ⟨middle, first, second⟩)

/-- A chain to an item goes through every part that can be reached from its start. -/
theorem passes (toItem : Chain table names part (.item value))
    (way : Chain table front part middle) :
    ∃ rest, names = front ++ rest ∧ Chain table rest middle (.item value) := by
  induction way generalizing names with
  | here part => exact ⟨names, rfl, toItem⟩
  | hop segment found _ ih =>
      cases toItem with
      | hop segment' found' chain =>
          obtain rfl := (lastSegment_iff.mp segment).symm.trans (lastSegment_iff.mp segment')
          obtain rfl := Option.some.inj (found.symm.trans found')
          obtain ⟨rest, rfl, beyond⟩ := ih chain
          exact ⟨rest, rfl, beyond⟩

theorem names_unique {others : List String} {other : α}
    (one : Chain table names part (.item value)) (two : Chain table others part (.item other)) :
    names = others := by
  obtain ⟨rest, rfl, beyond⟩ := one.passes two
  cases beyond
  rw [List.append_nil]

/-- A name that came again would lead back to where the chain was before, and the
rest of the chain would be shorter than itself. -/
theorem nodup (toItem : Chain table names part (.item value)) : names.Nodup := by
  induction names generalizing part with
  | nil => exact List.nodup_nil
  | cons name names ih =>
      cases toItem with
      | hop _ found chain =>
          refine List.nodup_cons.mpr ⟨fun again => ?_, ih chain⟩
          obtain ⟨front, rest, rfl⟩ := List.append_of_mem again
          obtain ⟨middle, -, repeated⟩ := append_iff.mp chain
          cases repeated with
          | hop _ found' beyond =>
              obtain rfl := Option.some.inj (found.symm.trans found')
              have shorter := congrArg List.length (chain.names_unique beyond)
              simp only [List.length_append, List.length_cons] at shorter
              omega

theorem subset_names (chain : Chain table names part last) : names ⊆ table.names := by
  induction chain with
  | here part => exact List.nil_subset _
  | hop _ found _ ih =>
      exact List.cons_subset.mpr ⟨Table.mem_names (Table.mem_of_get? found), ih⟩

/-- A chain ends where it starts, or at an entry of the table. -/
theorem last_eq_or_mem (chain : Chain table names part last) :
    last = part ∨ ∃ name, (name, last) ∈ table := by
  induction chain with
  | here part => exact .inl rfl
  | hop _ found _ ih =>
      rcases ih with rfl | declared
      · exact .inr ⟨_, Table.mem_of_get? found⟩
      · exact .inr declared

theorem length_le (toItem : Chain table names part (.item value)) :
    names.length ≤ table.length := by
  have bounded := (List.subperm_of_subset toItem.nodup toItem.subset_names).length_le
  rwa [Table.names, List.length_map] at bounded

end Chain

theorem resolveWithin_item {hops : Nat} {other : α} :
    resolveWithin table hops (.item other) = some value ↔
      ∃ names, names.length ≤ hops ∧ Chain table names (.item other) (.item value) := by
  have found : resolveWithin table hops (.item other) = some other := by cases hops <;> rfl
  rw [found, Option.some.injEq]
  constructor
  · rintro rfl
    exact ⟨[], Nat.zero_le hops, .here _⟩
  · rintro ⟨names, -, ⟨⟩⟩
    rfl

theorem resolveWithin_eq_some_iff {hops : Nat} :
    resolveWithin table hops part = some value ↔
      ∃ names, names.length ≤ hops ∧ Chain table names part (.item value) := by
  induction hops generalizing part with
  | zero =>
      cases part with
      | item other => exact resolveWithin_item
      | ref reference =>
          have cut : resolveWithin table 0 (.ref reference) = none := rfl
          rw [cut]
          constructor
          · exact nofun
          · rintro ⟨_, short, _ | ⟨segment, found, chain⟩⟩
            exact absurd short (Nat.not_succ_le_zero _)
  | succ hops ih =>
      cases part with
      | item other => exact resolveWithin_item
      | ref reference =>
          rw [resolveWithin, Option.bind_eq_some_iff]
          constructor
          · rintro ⟨next, found, resolved⟩
            obtain ⟨names, short, chain⟩ := ih.mp resolved
            exact ⟨key reference :: names, Nat.succ_le_succ short,
              .hop (lastSegment_iff.mpr rfl) found chain⟩
          · rintro ⟨_, short, _ | ⟨segment, found, chain⟩⟩
            refine ⟨_, ?_, ih.mpr ⟨_, Nat.le_of_succ_le_succ short, chain⟩⟩
            rwa [lastSegment_iff.mp segment]

theorem Loops.not_chain (loops : Loops table part) :
    ¬Chain table names part (.item value) := by
  obtain ⟨way, middle, round, toMiddle, turns, around⟩ := loops
  intro toItem
  obtain ⟨rest, -, beyond⟩ := toItem.passes toMiddle
  have onceMore : Chain table (round ++ rest) middle (.item value) :=
    Chain.append_iff.mpr ⟨middle, around, beyond⟩
  exact turns (List.append_left_eq_self.mp (onceMore.names_unique beyond))

theorem Dangles.not_chain (dangles : Dangles table part) :
    ¬Chain table names part (.item value) := by
  obtain ⟨way, reference, name, toReference, segment, absent⟩ := dangles
  intro toItem
  obtain ⟨rest, -, beyond⟩ := toItem.passes toReference
  cases beyond with
  | hop segment' found _ =>
      obtain rfl := (lastSegment_iff.mp segment).symm.trans (lastSegment_iff.mp segment')
      exact absent (Table.mem_names (Table.mem_of_get? found))

/-- A part is found exactly when at most seventeen references lead from it to an
item, and never on a loop or behind a name that is missing.  In a table with at most
seventeen entries every chain that ends at an item is short enough. -/
theorem resolve_chain (table : Table (RefOr α)) (part : RefOr α) :
    (∀ value, part.resolve table = some value ↔
      ∃ names, names.length ≤ 17 ∧ Chain table names part (.item value)) ∧
    (Loops table part ∨ Dangles table part → part.resolve table = none) ∧
    (table.length ≤ 17 → ∀ value, part.resolve table = some value ↔
      ∃ names, Chain table names part (.item value)) := by
  have resolves : ∀ value, part.resolve table = some value ↔
      ∃ names, names.length ≤ 17 ∧ Chain table names part (.item value) := fun _ =>
    resolveWithin_eq_some_iff
  refine ⟨resolves, ?_, ?_⟩
  · intro lost
    refine Option.eq_none_iff_forall_ne_some.mpr fun value resolved => ?_
    obtain ⟨names, -, toItem⟩ := (resolves value).mp resolved
    rcases lost with loops | dangles
    · exact loops.not_chain toItem
    · exact dangles.not_chain toItem
  · intro small value
    rw [resolves]
    constructor
    · rintro ⟨names, -, toItem⟩
      exact ⟨names, toItem⟩
    · rintro ⟨names, toItem⟩
      exact ⟨names, toItem.length_le.trans small, toItem⟩

/-- A table in which every entry refers to the next one, and the last one is an item. -/
def ladder (rungs : Nat) : Table (RefOr Nat) :=
  (List.range rungs).map (fun index =>
    (toString index, .ref ("#/components/parameters/" ++ toString (index + 1)))) ++
  [(toString rungs, .item rungs)]

/-- Seventeen references are followed to the top of the ladder, and eighteen are not.  A
reference to itself leads nowhere, and neither does one to a missing name. -/
theorem resolve_chain_ladder :
    (ladder 16).length ≤ 17 ∧
      (∃ names, Chain (ladder 16) names (.ref "#/components/parameters/0") (.item 16)) ∧
      (RefOr.ref "#/components/parameters/0").resolve (ladder 16) = some 16 ∧
      (RefOr.ref "#/components/parameters/0").resolve (ladder 17) = none ∧
      (RefOr.ref "a").resolve (("a", .ref "x/a") :: ladder 16) = none ∧
      (RefOr.ref "x/a").resolve (ladder 16) = none := by
  have small : (ladder 16).length ≤ 17 := by decide
  have top : (RefOr.ref "#/components/parameters/0").resolve (ladder 16) = some 16 := by decide
  have loops : Loops (("a", .ref "x/a") :: ladder 16) (.ref "a") :=
    ⟨["a"], .ref "x/a", ["a"], .hop ⟨by decide, .inl rfl⟩ rfl (.here _), by decide,
      .hop ⟨by decide, .inr ⟨"x", rfl⟩⟩ rfl (.here _)⟩
  have dangles : Dangles (ladder 16) (.ref "x/a") :=
    ⟨[], "x/a", "a", .here _, ⟨by decide, .inr ⟨"x", rfl⟩⟩, by decide⟩
  exact ⟨small, ((resolve_chain (ladder 16) _).2.2 small 16).mp top, top, by decide,
    (resolve_chain _ _).2.1 (.inl loops), (resolve_chain _ _).2.1 (.inr dangles)⟩

end ApiReview.RefOr
