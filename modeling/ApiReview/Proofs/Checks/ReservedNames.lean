import ApiReview.Checks.Naming
import ApiReview.Proofs.Text.Casing

/-!
# Reserved names

Keywords are compared with the full lower case form of a name, extra words are
compared with the name up to the case of ASCII letters alone.  Both comparisons agree
on texts that differ in nothing beyond ASCII.  A capital `Ü` and a small one they tell
apart: an extra word with the one does not reserve a name with the other.
-/

namespace ApiReview

open Text (SameOutsideAscii IsAscii eqIgnoringAsciiCase_iff_lower)

variable {extra : List String} {name : String} {usual : String → Prop}

theorem lower_of_mem_reservedWords : ∀ word ∈ reservedWords, Text.lower word = word := by
  decide +kernel

/-- A name is reserved when a keyword has its lower case form, or an extra word has it and
the same characters beyond ASCII. -/
theorem isReserved_iff :
    isReserved extra name = true ↔
      (∃ word ∈ reservedWords, Text.lower name = Text.lower word) ∨
        ∃ word ∈ extra, Text.lower name = Text.lower word ∧ SameOutsideAscii word name := by
  have keyword : Text.lower name ∈ reservedWords ↔
      ∃ word ∈ reservedWords, Text.lower name = Text.lower word := by
    constructor
    · exact fun member => ⟨_, member, (lower_of_mem_reservedWords _ member).symm⟩
    · rintro ⟨word, member, same⟩
      rwa [same, lower_of_mem_reservedWords word member]
  rw [isReserved, Bool.or_eq_true, List.contains_iff_mem, keyword, List.any_eq_true]
  simp only [eqIgnoringAsciiCase_iff_lower, eq_comm (a := Text.lower name)]

/-- For names and extra words of some kind the case of letters does not matter at all: a
name is reserved by the words that share its lower case form, so names and lists of words
with the same lower case forms are treated alike. -/
structure ReservesIgnoringCase (usual : String → Prop) : Prop where
  reserved : ∀ extra name, usual name → (∀ word ∈ extra, usual word) →
    (isReserved extra name = true ↔
      ∃ word ∈ reservedWords ++ extra, Text.lower name = Text.lower word)
  alike : ∀ extra extra' name name', usual name → usual name' → (∀ word ∈ extra, usual word) →
    (∀ word ∈ extra', usual word) → Text.lower name = Text.lower name' →
    extra.map Text.lower = extra'.map Text.lower → isReserved extra name = isReserved extra' name'

theorem reservesIgnoringCase_of_reserved {usual : String → Prop}
    (reserved : ∀ extra name, usual name → (∀ word ∈ extra, usual word) →
      (isReserved extra name = true ↔
        ∃ word ∈ reservedWords ++ extra, Text.lower name = Text.lower word)) :
    ReservesIgnoringCase usual := by
  refine ⟨reserved, ?_⟩
  intro extra extra' name name' isUsual isUsual' usualWords usualWords' sameName sameWords
  have sameForms : (reservedWords ++ extra).map Text.lower =
      (reservedWords ++ extra').map Text.lower := by
    rw [List.map_append, List.map_append, sameWords]
  have byForms : ∀ words : List String, (∃ word ∈ words, Text.lower name = Text.lower word) ↔
      Text.lower name ∈ words.map Text.lower := by
    intro words
    simp only [List.mem_map, eq_comm]
  rw [Bool.eq_iff_iff, reserved extra name isUsual usualWords,
    reserved extra' name' isUsual' usualWords', ← sameName, byForms, byForms, sameForms]

/-- Letter case does not matter among names and extra words of some kind exactly when two of
them with one lower case form, which is no keyword, never differ beyond ASCII. -/
theorem reservesIgnoringCase_iff :
    ReservesIgnoringCase usual ↔ ∀ word name, usual word → usual name →
      Text.lower name = Text.lower word →
        (∃ keyword ∈ reservedWords, Text.lower name = Text.lower keyword) ∨
          SameOutsideAscii word name := by
  constructor
  · intro ignores word name usualWord usualName same
    have reserved : isReserved [word] name = true :=
      (ignores.reserved [word] name usualName (by simpa using usualWord)).mpr
        ⟨word, by simp, same⟩
    rcases isReserved_iff.mp reserved with keyword | ⟨other, listed, -, written⟩
    · exact .inl keyword
    · rw [List.mem_singleton.mp listed] at written
      exact .inr written
  · intro written
    refine reservesIgnoringCase_of_reserved fun extra name usualName usualWords => ?_
    rw [isReserved_iff]
    constructor
    · rintro (⟨word, listed, same⟩ | ⟨word, listed, same, -⟩)
      · exact ⟨word, List.mem_append_left _ listed, same⟩
      · exact ⟨word, List.mem_append_right _ listed, same⟩
    · rintro ⟨word, listed, same⟩
      rcases List.mem_append.mp listed with listed | listed
      · exact .inl ⟨word, listed, same⟩
      · rcases written word name (usualWords word listed) usualName same with keyword | equal
        · exact .inl keyword
        · exact .inr ⟨word, listed, same, equal⟩

theorem reservesIgnoringCase_ascii : ReservesIgnoringCase fun text => IsAscii text.toList := by
  refine reservesIgnoringCase_iff.mpr fun word name wordAscii nameAscii same => .inr ?_
  rw [Text.lower_of_ascii wordAscii, Text.lower_of_ascii nameAscii] at same
  exact (eqIgnoringAsciiCase_iff_lower.mp
    (Text.eqIgnoringAsciiCase_iff.mpr (String.ofList_inj.mp same.symm))).2

/-- A name is reserved by the keywords that share its lower case form, and by the extra words
that share it and are written with the same characters beyond ASCII.  So among names and
extra words of some kind letter case does not matter exactly when two of them with one lower
case form, which is no keyword, never differ beyond ASCII; among ASCII texts it never does. -/
theorem reserved_by_lower_forms (extra : List String) (name : String) (usual : String → Prop) :
    (isReserved extra name = true ↔
      (∃ word ∈ reservedWords, Text.lower name = Text.lower word) ∨
        ∃ word ∈ extra, Text.lower name = Text.lower word ∧ SameOutsideAscii word name) ∧
    (ReservesIgnoringCase usual ↔ ∀ word name, usual word → usual name →
      Text.lower name = Text.lower word →
        (∃ keyword ∈ reservedWords, Text.lower name = Text.lower keyword) ∨
          SameOutsideAscii word name) ∧
    ReservesIgnoringCase fun text => IsAscii text.toList :=
  ⟨isReserved_iff, reservesIgnoringCase_iff, reservesIgnoringCase_ascii⟩

/-- A capital and a small umlaut share a lower case form, and only one of them is reserved. -/
theorem reserved_by_lower_forms_umlaut :
    Text.lower "über" = Text.lower "Über" ∧ isReserved ["Über"] "ÜBER" = true ∧
      isReserved ["Über"] "über" = false ∧ ¬ReservesIgnoringCase fun _ => True := by
  have same : Text.lower "über" = Text.lower "Über" := by decide +kernel
  refine ⟨same, ?_, by decide +kernel, ?_⟩
  · exact (reserved_by_lower_forms ["Über"] "ÜBER" fun _ => True).1.mpr
      (.inr ⟨"Über", by decide, by decide +kernel, by decide⟩)
  · intro ignores
    have written := (reserved_by_lower_forms [] "" fun _ => True).2.1.mp ignores "Über" "über"
      trivial trivial same
    revert written
    decide +kernel

end ApiReview
