import ApiReview.Text.Cut
import Mathlib.Data.List.TakeWhile
import Mathlib.Data.String.Basic

/-!
# Openings, last pieces and all pieces

What follows an opening, and what follows the last separator, is found again in
a text that was put together from these parts.  The pieces of a text hold all of
it but the separators.
-/

namespace ApiReview.Text

variable {front opening rest : String} {separator : Char}

theorem dropOpening?_append : dropOpening? opening (opening ++ rest) = some rest := by
  simp [dropOpening?]

theorem ne_of_notMem (absent : separator ∉ rest.toList) :
    ∀ c ∈ rest.toList.reverse, (c != separator) = true := by
  intro c member
  have differs : c ≠ separator := fun same =>
    absent (same ▸ List.mem_reverse.mp member)
  simpa using differs

theorem afterLast_append (absent : separator ∉ rest.toList) :
    afterLast separator (front ++ String.singleton separator ++ rest) = rest := by
  unfold afterLast
  rw [String.toList_append, List.reverse_append, List.takeWhile_append_of_pos (ne_of_notMem absent)]
  simp

theorem afterLast_of_notMem (absent : separator ∉ rest.toList) :
    afterLast separator rest = rest := by
  rw [afterLast, List.takeWhile_eq_self_iff.mpr (ne_of_notMem absent), List.reverse_reverse,
    String.ofList_toList]

theorem notMem_afterLast (separator : Char) (text : String) :
    separator ∉ (afterLast separator text).toList := by
  intro member
  rw [afterLast, String.toList_ofList, List.mem_reverse] at member
  simpa using List.mem_takeWhile_imp member

/-- A text is what follows its last separator, or ends with the two of them. -/
theorem eq_afterLast_or_append (separator : Char) (text : String) :
    text = afterLast separator text ∨
      ∃ front, text = front ++ String.singleton separator ++ afterLast separator text := by
  have parts := List.takeWhile_append_dropWhile (p := (· != separator)) (l := text.toList.reverse)
  have turned := congrArg List.reverse parts
  rw [List.reverse_append, List.reverse_reverse] at turned
  cases dropped : text.toList.reverse.dropWhile (· != separator) with
  | nil =>
      left
      rw [dropped, List.reverse_nil, List.nil_append] at turned
      rw [afterLast, turned, String.ofList_toList]
  | cons c before =>
      right
      have isSeparator : c = separator := by
        have stopped := List.head?_dropWhile_not (· != separator) text.toList.reverse
        rw [dropped] at stopped
        simpa using stopped
      refine ⟨String.ofList before.reverse, ?_⟩
      apply String.toList_injective
      rw [dropped, List.reverse_cons, isSeparator] at turned
      rw [afterLast, String.toList_append, String.toList_append, String.toList_ofList,
        String.toList_ofList, String.toList_singleton, turned]

theorem flatten_cutList (isCut : Char → Bool) (text : List Char) :
    (cutList isCut text).flatten = text.filter (!isCut ·) := by
  induction text with
  | nil => rfl
  | cons c rest ih =>
      unfold cutList
      by_cases cut : isCut c = true
      · simp [cut, ih]
      · rw [if_neg cut]
        cases pieces : cutList isCut rest with
        | nil => simp_all
        | cons piece pieces => simp_all

theorem exists_cutList_eq_cons (isCut : Char → Bool) (text : List Char) :
    ∃ piece pieces, cutList isCut text = piece :: pieces := by
  cases text with
  | nil => exact ⟨[], [], rfl⟩
  | cons c rest =>
      unfold cutList
      split
      · exact ⟨_, _, rfl⟩
      · split <;> exact ⟨_, _, rfl⟩

/-- A separator ends the pieces before it, and others begin behind it. -/
theorem cutList_append_cons {isCut : Char → Bool} {c : Char} (cut : isCut c = true)
    (text rest : List Char) :
    cutList isCut (text ++ c :: rest) = cutList isCut text ++ cutList isCut rest := by
  induction text with
  | nil => simp [cutList, cut]
  | cons first text ih =>
      rw [List.cons_append, cutList, cutList, ih]
      by_cases cutFirst : isCut first = true
      · rw [if_pos cutFirst, if_pos cutFirst, List.cons_append]
      · obtain ⟨piece, pieces, found⟩ := exists_cutList_eq_cons isCut text
        rw [if_neg cutFirst, if_neg cutFirst, found]
        rfl

/-- A text without separators is one piece. -/
theorem cutList_eq_singleton {isCut : Char → Bool} {text : List Char}
    (uncut : ∀ c ∈ text, isCut c = false) : cutList isCut text = [text] := by
  induction text with
  | nil => rfl
  | cons first text ih =>
      obtain ⟨uncutFirst, uncutRest⟩ := List.forall_mem_cons.mp uncut
      rw [cutList, uncutFirst, ih uncutRest]
      rfl

theorem cutList_eq_splitOnP (isCut : Char → Bool) (text : List Char) :
    cutList isCut text = text.splitOnP isCut := by
  induction text with
  | nil => rfl
  | cons c rest ih =>
      rw [cutList, List.splitOnP_cons_eq_if_modifyHead, ← ih]
      obtain ⟨piece, pieces, found⟩ := exists_cutList_eq_cons isCut rest
      rw [found]
      rfl

/-- The pieces of a text between all occurrences of a separator. -/
structure Pieces (separator : Char) (text : String) (pieces : List String) : Prop where
  filled : pieces ≠ []
  uncut : ∀ piece ∈ pieces, separator ∉ piece.toList
  joined : (String.singleton separator).intercalate pieces = text

theorem pieces_cutAt (separator : Char) (text : String) :
    Pieces separator text (cutAt separator text) where
  filled := by
    obtain ⟨piece, pieces, found⟩ := exists_cutList_eq_cons (· == separator) text.toList
    rw [cutAt, found]
    simp
  uncut := by
    intro piece member inside
    obtain ⟨chars, listed, rfl⟩ := List.mem_map.mp member
    rw [String.toList_ofList] at inside
    have kept : separator ∈ (cutList (· == separator) text.toList).flatten :=
      List.mem_flatten_of_mem listed inside
    rw [flatten_cutList] at kept
    simp at kept
  joined := by
    apply String.toList_injective
    rw [String.toList_intercalate, cutAt, List.map_map, cutList_eq_splitOnP]
    simp only [Function.comp_def, String.toList_ofList, List.map_id', String.toList_singleton]
    exact List.intercalate_splitOn separator

theorem cutAt_injective (separator : Char) : Function.Injective (cutAt separator) := by
  intro one two same
  rw [← (pieces_cutAt separator one).joined, same, (pieces_cutAt separator two).joined]

theorem cutAt_append (front : String) (separator : Char) (rest : String) :
    cutAt separator (front ++ String.singleton separator ++ rest) =
      cutAt separator front ++ cutAt separator rest := by
  simp only [cutAt, String.toList_append, String.toList_singleton, List.append_assoc,
    List.singleton_append]
  rw [cutList_append_cons (by simp), List.map_append]

theorem cutAt_of_notMem (absent : separator ∉ rest.toList) : cutAt separator rest = [rest] := by
  have uncut : ∀ c ∈ rest.toList, (c == separator) = false := by
    intro c member
    simpa using ne_of_notMem absent c (List.mem_reverse.mpr member)
  rw [cutAt, cutList_eq_singleton uncut, List.map_singleton, String.ofList_toList]

end ApiReview.Text
