import Mathlib.Data.List.Basic

/-!
# Replaced words

A search goes through a text from the left and passes over each occurrence that it finds.
`String.replace` puts another text in the place of each of them, so the characters of its
result are given by a recursion on the characters of the text.
-/

namespace ApiReview.Text

section Characters

variable {word replacement text passed rest : List Char} {c : Char}

/-- A text with the occurrences of a word replaced.  They are taken from the left, and
nothing is looked for inside of one of them or inside of a replacement. -/
def replaceList (word replacement : List Char) : List Char → List Char
  | [] => []
  | c :: rest =>
      if word <+: c :: rest then
        replacement ++ replaceList word replacement (rest.drop (word.length - 1))
      else
        c :: replaceList word replacement rest
termination_by text => text.length

theorem replaceList_append (filled : word ≠ []) :
    replaceList word replacement (word ++ rest) =
      replacement ++ replaceList word replacement rest := by
  cases word with
  | nil => exact absurd rfl filled
  | cons c word =>
      rw [List.cons_append, replaceList, if_pos ⟨rest, rfl⟩, List.length_cons,
        Nat.add_sub_cancel, List.drop_left]

theorem replaceList_cons (apart : ¬word <+: c :: rest) :
    replaceList word replacement (c :: rest) = c :: replaceList word replacement rest := by
  rw [replaceList, if_neg apart]

/-- Where no occurrence begins the characters stay. -/
theorem replaceList_append_of_apart
    (apart : ∀ front behind, passed = front ++ behind → behind ≠ [] → ¬word <+: behind ++ rest) :
    replaceList word replacement (passed ++ rest) =
      passed ++ replaceList word replacement rest := by
  induction passed with
  | nil => rfl
  | cons c passed ih =>
      have first := apart [] (c :: passed) rfl (by simp)
      rw [List.cons_append] at first ⊢
      rw [replaceList_cons first, ih, List.cons_append]
      rintro front behind rfl filled
      exact apart (c :: front) behind rfl filled

theorem replaceList_singleton :
    replaceList [c] replacement text =
      text.flatMap fun x => if x = c then replacement else [x] := by
  induction text with
  | nil => simp [replaceList]
  | cons x text ih =>
      rw [List.flatMap_cons, ← ih]
      by_cases same : x = c
      · subst same
        rw [if_pos rfl]
        exact replaceList_append (by simp)
      · rw [if_neg same]
        exact replaceList_cons (by simp [Ne.symm same])

end Characters

section Search

open String.Slice.Pattern Model

variable {ρ : Type} {pat : ρ} [PatternModel pat] {s : String.Slice} {start stop : s.Pos}
  {word replacement before behind passed rest : String} {steps : List (SearchStep s)}

/-- What a search for the pattern finds are the occurrences of a word. -/
structure Finds (pat : ρ) [PatternModel pat] (word : String) : Prop where
  longestMatch_iff : ∀ {s : String.Slice} {start stop : s.Pos}, IsLongestMatchAt pat start stop ↔
    ∃ before behind, start.Splits before (word ++ behind) ∧ stop.Splits (before ++ word) behind

theorem finds_string (word : String) : Finds word word where
  longestMatch_iff := ForwardStringSearcher.isLongestMatchAt_iff_splits

theorem finds_char (c : Char) : Finds c (String.singleton c) where
  longestMatch_iff := by
    intro s start stop
    rw [Char.isLongestMatchAt_iff]
    constructor
    · rintro ⟨inside, rfl, rfl⟩
      exact ⟨_, _, start.splits_next_right inside, start.splits_next inside⟩
    · rintro ⟨before, behind, starts, stops⟩
      exact ⟨starts.ne_endPos_of_singleton, stops.pos_eq starts.next,
        starts.next.get_eq_of_singleton⟩

theorem copy_slice! (starts : start.Splits before (passed ++ rest))
    (stops : stop.Splits (before ++ passed) rest) : (s.slice! start stop).copy = passed := by
  obtain ⟨ordered, same⟩ := String.Slice.copy_slice_eq_iff_splits.mpr ⟨before, rest, starts, stops⟩
  rw [String.Slice.slice!, dif_pos ordered, same]

namespace Finds

theorem matchesAt (finds : Finds pat word) (splits : start.Splits before (word ++ behind)) :
    MatchesAt pat start :=
  ⟨⟨splits.rotateRight,
    finds.longestMatch_iff.mpr ⟨before, behind, splits, splits.splits_rotateRight⟩⟩⟩

/-- The word does not begin in what a search rejects. -/
theorem apart (finds : Finds pat word)
    (unmatched : ∀ pos : s.Pos, start ≤ pos → pos < stop → ¬MatchesAt pat pos)
    (starts : start.Splits before (passed ++ rest)) (stops : stop.Splits (before ++ passed) rest)
    (front behind : List Char) (parts : passed.toList = front ++ behind) (filled : behind ≠ []) :
    ¬word.toList <+: behind ++ rest.toList := by
  rintro ⟨tail, found⟩
  obtain rfl : passed = String.ofList front ++ String.ofList behind :=
    String.toList_injective (by simpa using parts)
  have opening : String.ofList behind ++ rest = word ++ String.ofList tail :=
    String.toList_injective (by simpa using found.symm)
  rw [String.append_assoc] at starts
  rw [← String.append_assoc] at stops
  have here := starts.splits_rotateRight
  apply unmatched starts.rotateRight
  · exact (starts.le_iff_exists_eq_append here).mpr ⟨_, rfl, rfl⟩
  · refine (here.lt_iff_exists_eq_append stops).mpr ⟨_, ?_, rfl, rfl⟩
    simpa using filled
  · generalize starts.rotateRight = pos at here
    rw [opening] at here
    exact finds.matchesAt here

/-- What one step of a search adds to the text with the replacements. -/
def putStep (replacement sofar : String) : SearchStep s → String
  | .matched _ _ => sofar ++ String.ToSlice.toSlice replacement
  | .rejected start stop => sofar ++ s.slice! start stop

theorem toList_foldl (finds : Finds pat word) (filled : word ≠ "")
    (valid : IsValidSearchFrom pat start steps) (splits : start.Splits before behind)
    (sofar : String) :
    (steps.foldl (putStep replacement) sofar).toList =
      sofar.toList ++ replaceList word.toList replacement.toList behind.toList := by
  induction valid generalizing before behind sofar with
  | endPos =>
      obtain ⟨-, rfl⟩ := splits.eq (String.Slice.splits_endPos _)
      simp [replaceList]
  | matched found _ ih =>
      obtain ⟨front, rest, starts, stops⟩ := finds.longestMatch_iff.mp found
      obtain ⟨rfl, rfl⟩ := splits.eq starts
      have put : (String.ToSlice.toSlice replacement).copy = replacement := String.copy_toSlice
      rw [List.foldl_cons, ih stops, putStep]
      simp [replaceList_append, filled, put]
  | @mismatched _ start stop later unmatched _ ih =>
      obtain ⟨passed, -, reached, rfl⟩ := (splits.lt_iff_exists_eq_append stop.splits).mp later
      have stops := stop.splits
      rw [reached] at stops
      rw [List.foldl_cons, ih stops, putStep, String.toList_append,
        replaceList_append_of_apart (finds.apart unmatched splits stops)]
      simp [copy_slice! splits stops]

theorem toList_replace {σ : String.Slice → Type} [ToForwardSearcher pat σ]
    [∀ s, Std.Iterator (σ s) Id (SearchStep s)] [∀ s, Std.Iterators.Finite (σ s) Id]
    [∀ s, Std.IteratorLoop (σ s) Id Id] [∀ s, Std.LawfulIteratorLoop (σ s) Id Id]
    [lawful : LawfulToForwardSearcherModel pat] (finds : Finds pat word) (filled : word ≠ "")
    (text : String) :
    (text.replace pat replacement).toList =
      replaceList word.toList replacement.toList text.toList := by
  let found := ToForwardSearcher.toSearcher pat text.toSlice
  have valid : IsValidSearchFrom pat _ found.toList := lawful.isValidSearchFrom_toList text.toSlice
  calc
    _ = (found.toList.foldl (putStep replacement) "").toList := by
      rw [Std.Iter.foldl_toList, String.replace, String.Slice.replace]
      congr 2
      funext sofar step
      cases step <;> rfl
    _ = _ := by
      rw [finds.toList_foldl filled valid (String.Slice.splits_startPos _)]
      simp

end Finds

theorem toList_replace_char (text : String) (c : Char) (replacement : String) :
    (text.replace c replacement).toList =
      text.toList.flatMap fun x => if x = c then replacement.toList else [x] := by
  rw [(finds_char c).toList_replace (by simp), String.toList_singleton, replaceList_singleton]

theorem toList_replace_string (filled : word ≠ "") (text replacement : String) :
    (text.replace word replacement).toList =
      replaceList word.toList replacement.toList text.toList :=
  have := ForwardStringSearcher.lawfulToForwardSearcherModel filled
  (finds_string word).toList_replace filled text

end Search

end ApiReview.Text
