import ApiReview.Checks.Naming
import ApiReview.Proofs.Text.Casing
import ApiReview.Proofs.Text.Cut

/-!
# Normalized names and separators

Separators only say where the pieces of a name begin.  So the normalized forms of two
names that are joined by separators stand next to each other, whichever separators these
are and however many.  A normalized form in ASCII is one piece that opens with its upper
case form, so normalizing it again changes nothing.
-/

namespace ApiReview

open Text (IsAscii cutList)

/-- A text in which nothing but separators stands; it may be empty. -/
def OnlySeparators (text : String) : Prop :=
  ∀ c ∈ text.toList, isSeparator c = true

instance (text : String) : Decidable (OnlySeparators text) :=
  decidable_of_iff (text.toList.all isSeparator = true) List.all_eq_true

/-- The characters of the normalized form of a name. -/
def normalizedChars (text : List Char) : List Char :=
  (cutList isSeparator text).flatMap capitalize

variable {c : Char} {text before after rest : List Char}

theorem toList_normalizeName (name : String) :
    (normalizeName name).toList = normalizedChars name.toList := by
  simp [normalizeName, normalizedChars]

section Separators

theorem normalizedChars_append_cons (separator : isSeparator c = true) (text rest : List Char) :
    normalizedChars (text ++ c :: rest) = normalizedChars text ++ normalizedChars rest := by
  simp [normalizedChars, Text.cutList_append_cons separator]

/-- Separators at the start are passed over. -/
theorem normalizedChars_append_of_leading (separators : ∀ c ∈ before, isSeparator c = true) :
    normalizedChars (before ++ rest) = normalizedChars rest := by
  induction before with
  | nil => rfl
  | cons first before ih =>
      obtain ⟨separator, separators⟩ := List.forall_mem_cons.mp separators
      have opening := normalizedChars_append_cons separator [] (before ++ rest)
      rw [List.nil_append] at opening
      have nothing : normalizedChars [] = [] := rfl
      rw [List.cons_append, opening, nothing, List.nil_append, ih separators]

/-- One separator is enough to end a piece, and those that follow it stand in front of the
rest. -/
theorem normalizedChars_separated (nonempty : before ≠ [])
    (separators : ∀ c ∈ before, isSeparator c = true) (text rest : List Char) :
    normalizedChars (text ++ before ++ rest) = normalizedChars text ++ normalizedChars rest := by
  obtain ⟨first, before, rfl⟩ := List.exists_cons_of_ne_nil nonempty
  obtain ⟨separator, separators⟩ := List.forall_mem_cons.mp separators
  calc normalizedChars (text ++ first :: before ++ rest)
      = normalizedChars (text ++ first :: (before ++ rest)) := by
        rw [List.append_assoc, List.cons_append]
    _ = normalizedChars text ++ normalizedChars (before ++ rest) :=
        normalizedChars_append_cons separator text _
    _ = normalizedChars text ++ normalizedChars rest := by
        rw [normalizedChars_append_of_leading separators]

/-- Separators at the end are passed over. -/
theorem normalizedChars_append_of_trailing (separators : ∀ c ∈ after, isSeparator c = true) :
    normalizedChars (text ++ after) = normalizedChars text := by
  by_cases empty : after = []
  · rw [empty, List.append_nil]
  · have nothing : normalizedChars [] = [] := rfl
    have joined := normalizedChars_separated empty separators text []
    rwa [List.append_nil, nothing, List.append_nil] at joined

end Separators

section Ascii

theorem isSeparator_toUpper (ascii : c.toNat < 128) : isSeparator c.toUpper = isSeparator c :=
  Text.forall_ascii (motive := fun c => isSeparator c.toUpper = isSeparator c) (by decide) c ascii

theorem upperChar_toUpper (ascii : c.toNat < 128) : Text.upperChar c.toUpper = [c.toUpper] :=
  Text.forall_ascii (motive := fun c => Text.upperChar c.toUpper = [c.toUpper]) (by decide) c ascii

/-- What stands between the separators of an ASCII text is ASCII and holds none of them. -/
theorem ascii_of_mem_cutList (ascii : IsAscii text) {piece : List Char}
    (member : piece ∈ cutList isSeparator text) :
    ∀ c ∈ piece, c.toNat < 128 ∧ isSeparator c = false := by
  intro c inPiece
  have inPieces : c ∈ (cutList isSeparator text).flatten := List.mem_flatten_of_mem member inPiece
  rw [Text.flatten_cutList] at inPieces
  obtain ⟨inText, word⟩ := List.mem_filter.mp inPieces
  exact ⟨ascii c inText, by simpa using word⟩

theorem isSeparator_of_mem_capitalize {piece : List Char}
    (word : ∀ c ∈ piece, c.toNat < 128 ∧ isSeparator c = false) (member : c ∈ capitalize piece) :
    isSeparator c = false := by
  cases piece with
  | nil => cases member
  | cons first piece =>
      obtain ⟨⟨ascii, separates⟩, others⟩ := List.forall_mem_cons.mp word
      rw [capitalize, Text.upperChar_of_ascii ascii] at member
      rcases List.mem_cons.mp member with rfl | member
      · rw [isSeparator_toUpper ascii, separates]
      · exact (others c member).2

/-- A normalized form holds no separator. -/
theorem isSeparator_of_mem_normalizedChars (ascii : IsAscii text)
    (member : c ∈ normalizedChars text) : isSeparator c = false := by
  obtain ⟨piece, listed, member⟩ := List.mem_flatMap.mp member
  exact isSeparator_of_mem_capitalize (ascii_of_mem_cutList ascii listed) member

/-- The first piece in which anything stands opens with an upper case form already. -/
theorem capitalize_flatMap_capitalize {pieces : List (List Char)}
    (ascii : ∀ piece ∈ pieces, IsAscii piece) :
    capitalize (pieces.flatMap capitalize) = pieces.flatMap capitalize := by
  induction pieces with
  | nil => rfl
  | cons piece pieces ih =>
      obtain ⟨here, later⟩ := List.forall_mem_cons.mp ascii
      cases piece with
      | nil => exact ih later
      | cons first piece =>
          have firstAscii := here first List.mem_cons_self
          simp [capitalize, Text.upperChar_of_ascii firstAscii, upperChar_toUpper firstAscii]

/-- A normalized form in ASCII is one piece, which is capitalized already. -/
theorem normalizedChars_normalizedChars (ascii : IsAscii text) :
    normalizedChars (normalizedChars text) = normalizedChars text := by
  have onePiece : cutList isSeparator (normalizedChars text) = [normalizedChars text] :=
    Text.cutList_eq_singleton fun c member => isSeparator_of_mem_normalizedChars ascii member
  have pieces : ∀ piece ∈ cutList isSeparator text, IsAscii piece := fun piece member c inPiece =>
    (ascii_of_mem_cutList ascii member c inPiece).1
  calc normalizedChars (normalizedChars text)
      = capitalize (normalizedChars text) := by
        rw [normalizedChars, onePiece, List.flatMap_singleton]
    _ = normalizedChars text := capitalize_flatMap_capitalize pieces

end Ascii

/-- Names that are joined by separators are normalized one by one.  So separators can be
exchanged for others, and those at the ends of a name are passed over.  The normalized form
of an ASCII name holds no separator and is its own normalized form. -/
theorem normalizeName_separated :
    (∀ one separators two : String, separators ≠ "" → OnlySeparators separators →
      normalizeName (one ++ separators ++ two) = normalizeName one ++ normalizeName two) ∧
    (∀ one separators others two : String, separators ≠ "" → others ≠ "" →
      OnlySeparators separators → OnlySeparators others →
      normalizeName (one ++ separators ++ two) = normalizeName (one ++ others ++ two)) ∧
    (∀ before name after : String, OnlySeparators before → OnlySeparators after →
      normalizeName (before ++ name ++ after) = normalizeName name) ∧
    ∀ name : String, IsAscii name.toList →
      (∀ c ∈ (normalizeName name).toList, isSeparator c = false) ∧
        normalizeName (normalizeName name) = normalizeName name := by
  have joined : ∀ one separators two : String, separators ≠ "" → OnlySeparators separators →
      normalizeName (one ++ separators ++ two) = normalizeName one ++ normalizeName two := by
    intro one separators two nonempty separates
    have nonemptyList : separators.toList ≠ [] := by simpa using nonempty
    apply String.toList_injective
    simp only [toList_normalizeName, String.toList_append]
    exact normalizedChars_separated nonemptyList separates one.toList two.toList
  refine ⟨joined, ?_, ?_, ?_⟩
  · intro one separators others two nonempty othersNonempty separates othersSeparate
    rw [joined one separators two nonempty separates,
      joined one others two othersNonempty othersSeparate]
  · intro before name after leading trailing
    apply String.toList_injective
    simp only [toList_normalizeName, String.toList_append]
    rw [normalizedChars_append_of_trailing trailing, normalizedChars_append_of_leading leading]
  · intro name ascii
    constructor
    · intro c member
      rw [toList_normalizeName] at member
      exact isSeparator_of_mem_normalizedChars ascii member
    · apply String.toList_injective
      rw [toList_normalizeName, toList_normalizeName]
      exact normalizedChars_normalizedChars ascii

/-- A run of separators of several sorts, also outside of ASCII, parts two pieces as a
single one does. -/
theorem normalizeName_separated_mixed :
    OnlySeparators "-·_" ∧ OnlySeparators "__" ∧ IsAscii "user_profile".toList ∧
      normalizeName ("straße" ++ "-·_" ++ "élan") = "Straße" ++ "Élan" ∧
      normalizeName ("user" ++ "-·_" ++ "profile") = normalizeName ("user" ++ "_" ++ "profile") ∧
      normalizeName ("__" ++ "user" ++ "") = "User" ∧
      normalizeName (normalizeName "user_profile") = "UserProfile" := by
  obtain ⟨joined, exchanged, passed, ascii⟩ := normalizeName_separated
  have run : OnlySeparators "-·_" := by decide +kernel
  have plain : IsAscii "user_profile".toList := by simp [IsAscii]
  refine ⟨run, by decide +kernel, plain, ?_, ?_, ?_, ?_⟩
  · exact (joined _ _ _ (by decide) run).trans (by decide +kernel)
  · exact exchanged _ _ _ _ (by decide) (by decide) run (by decide +kernel)
  · exact (passed _ _ _ (by decide +kernel) (by decide +kernel)).trans (by decide +kernel)
  · exact (ascii _ plain).2.trans (by decide +kernel)

end ApiReview
