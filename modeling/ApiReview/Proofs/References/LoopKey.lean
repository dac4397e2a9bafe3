import ApiReview.Proofs.References.ReferenceMap
import ApiReview.Review.ReferenceGraph

/-!
# Keys of loops

The key of a loop lists its names in ascending order.  Cut at its commas, it gives
the pieces of these names, one after the other.  As long as no name holds a comma
the pieces are the names: loops over the same names have the same key, loops over
different names have different keys, and the key holds a comma exactly when there
are two names at least.
-/

namespace ApiReview

/-- Does a text hold no comma? -/
def CommaFree (text : String) : Prop :=
  ',' ∉ text.toList

instance (text : String) : Decidable (CommaFree text) :=
  inferInstanceAs (Decidable (',' ∉ text.toList))

theorem Text.containsList_singleton {c : Char} {text : List Char} :
    Text.containsList [c] text = true ↔ c ∈ text := by
  induction text with
  | nil => simp [Text.containsList]
  | cons first rest ih => simp [Text.containsList, List.isPrefixOf, ih]

theorem splitOn_intercalate_eq_flatMap {α : Type} [DecidableEq α] {separator : α}
    {texts : List (List α)} (nonempty : texts ≠ []) :
    ([separator].intercalate texts).splitOn separator =
      texts.flatMap fun text => text.splitOn separator := by
  induction texts with
  | nil => contradiction
  | cons first rest ih =>
      cases rest with
      | nil => simp [List.intercalate]
      | cons second rest =>
          have joined : [separator].intercalate (first :: second :: rest) =
              first ++ separator :: [separator].intercalate (second :: rest) := by
            simp [List.intercalate]
          rw [joined, List.splitOn_append_cons_self, ih (List.cons_ne_nil second rest),
            ← List.flatMap_cons]

namespace Loop

/-- The names of a loop in ascending order. -/
def sortedNames (loop : Loop) : List String :=
  loop.foldr ReferenceMap.insertName []

variable {loop one two : Loop} {name : String}

@[simp]
theorem mem_sortedNames : name ∈ loop.sortedNames ↔ name ∈ loop := by
  induction loop with
  | nil => simp [sortedNames]
  | cons first rest ih =>
      unfold sortedNames at ih ⊢
      simp [ih]

theorem pairwise_sortedNames (loop : Loop) : loop.sortedNames.Pairwise (· < ·) := by
  induction loop with
  | nil => exact List.Pairwise.nil
  | cons first rest ih => exact ReferenceMap.pairwise_insertName ih

theorem sortedNames_eq_iff :
    one.sortedNames = two.sortedNames ↔ ∀ name, name ∈ one ↔ name ∈ two := by
  constructor
  · intro equal name
    rw [← mem_sortedNames, equal, mem_sortedNames]
  · intro same
    refine (pairwise_sortedNames one).eq_of_mem_iff (pairwise_sortedNames two) fun name => ?_
    rw [mem_sortedNames, mem_sortedNames, same]

theorem toList_key :
    loop.key.toList = [','].intercalate (loop.sortedNames.map String.toList) := by
  unfold key sortedNames
  rw [String.toList_intercalate]
  rfl

/-- The names of a loop in ascending order, cut at their commas. -/
def pieces (loop : Loop) : List (List Char) :=
  loop.sortedNames.flatMap fun name => name.toList.splitOn ','

theorem sortedNames_ne_nil (nonempty : loop ≠ []) : loop.sortedNames ≠ [] := by
  intro empty
  obtain ⟨name, member⟩ := List.exists_mem_of_ne_nil loop nonempty
  have sorted := mem_sortedNames.mpr member
  rw [empty] at sorted
  simp at sorted

theorem splitOn_key (nonempty : loop ≠ []) : loop.key.toList.splitOn ',' = loop.pieces := by
  have texts : loop.sortedNames.map String.toList ≠ [] := by
    simpa using sortedNames_ne_nil nonempty
  rw [toList_key, splitOn_intercalate_eq_flatMap texts, List.flatMap_map, pieces]

theorem pieces_eq_sortedNames (commaFree : ∀ name ∈ loop, CommaFree name) :
    loop.pieces = loop.sortedNames.map String.toList := by
  have uncut : ∀ name ∈ loop.sortedNames, name.toList.splitOn ',' = [name.toList] := by
    intro name sorted
    exact List.splitOn_eq_singleton (commaFree name (mem_sortedNames.mp sorted))
  rw [pieces, List.flatMap_congr uncut, List.map_eq_flatMap]

/-- The key of a loop depends on its names only. -/
theorem key_congr (same : ∀ name, name ∈ one ↔ name ∈ two) : one.key = two.key := by
  have equal := sortedNames_eq_iff.mpr same
  unfold sortedNames at equal
  rw [key, key, equal]

/-- Loops have the same key exactly when their names are cut into the same pieces. -/
theorem key_eq_iff_pieces_eq (oneNonempty : one ≠ []) (twoNonempty : two ≠ []) :
    one.key = two.key ↔ one.pieces = two.pieces := by
  constructor
  · intro equal
    rw [← splitOn_key oneNonempty, equal, splitOn_key twoNonempty]
  · intro equal
    rw [← splitOn_key oneNonempty, ← splitOn_key twoNonempty] at equal
    have joined := congrArg [','].intercalate equal
    rw [List.intercalate_splitOn, List.intercalate_splitOn] at joined
    exact String.toList_inj.mp joined

/-- Without commas in the names, loops have the same key exactly when they have
the same names. -/
theorem key_eq_iff (oneNonempty : one ≠ []) (twoNonempty : two ≠ [])
    (oneFree : ∀ name ∈ one, CommaFree name) (twoFree : ∀ name ∈ two, CommaFree name) :
    one.key = two.key ↔ ∀ name, name ∈ one ↔ name ∈ two := by
  rw [key_eq_iff_pieces_eq oneNonempty twoNonempty, pieces_eq_sortedNames oneFree,
    pieces_eq_sortedNames twoFree, ← sortedNames_eq_iff]
  exact (List.map_injective_iff.mpr fun _ _ => String.toList_inj.mp).eq_iff

/-- The key holds a comma when two names of the loop differ, or when a name does. -/
theorem contains_comma_key_iff_or :
    Text.contains loop.key "," = true ↔
      (∃ one ∈ loop, ∃ two ∈ loop, one ≠ two) ∨ ∃ name ∈ loop, ¬CommaFree name := by
  have holds : Text.contains loop.key "," = true ↔ ',' ∈ loop.key.toList :=
    Text.containsList_singleton
  rw [holds, toList_key]
  have ascending := pairwise_sortedNames loop
  cases sorted : loop.sortedNames with
  | nil =>
      have empty : ∀ name, name ∉ loop := by simp [← mem_sortedNames, sorted]
      simp [empty]
  | cons first rest =>
      rw [sorted] at ascending
      cases rest with
      | nil =>
          have single : ∀ name, name ∈ loop ↔ name = first := by simp [← mem_sortedNames, sorted]
          simp [single, CommaFree]
      | cons second rest =>
          have firstMember : first ∈ loop := mem_sortedNames.mp (by simp [sorted])
          have secondMember : second ∈ loop := mem_sortedNames.mp (by simp [sorted])
          have differs : first ≠ second :=
            ne_of_lt (List.rel_of_pairwise_cons ascending (by simp))
          exact iff_of_true (by simp)
            (.inl ⟨first, firstMember, second, secondMember, differs⟩)

/-- Without commas in the names, the key holds a comma exactly when two names of
the loop differ. -/
theorem contains_comma_key_iff (commaFree : ∀ name ∈ loop, CommaFree name) :
    Text.contains loop.key "," = true ↔ ∃ one ∈ loop, ∃ two ∈ loop, one ≠ two := by
  have free : ¬∃ name ∈ loop, ¬CommaFree name := by
    rintro ⟨name, member, comma⟩
    exact comma (commaFree name member)
  rw [contains_comma_key_iff_or, or_iff_left free]

end Loop

end ApiReview
