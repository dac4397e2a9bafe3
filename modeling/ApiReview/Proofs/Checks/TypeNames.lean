import ApiReview.Checks.Naming
import ApiReview.Proofs.Table
import ApiReview.Proofs.Text.Casing
import ApiReview.Proofs.Text.Cut

/-!
# Type names of clean documents

The check of names looks at the names of component schemas as they are declared,
and at their normalized forms only to tell them apart.  For an identifier the
normalized form is the name without its underscores, some letters of it in upper
case.  So underscores can hide what the check is after: without them the name may
be a keyword, start with a digit, or be gone.
-/

namespace ApiReview

open Text (IsAscii eqIgnoringAsciiCase)

/-- The normalized forms of some names in lower case, as far as anything is left
of the names. -/
def typeKeys (names : List String) : List String :=
  ((names.map normalizeName).filter (· != "")).map Text.lower

/-- The normalized forms of some names are usable as the names of types, next to
each other. -/
structure UsableTypeNames (extra names : List String) : Prop where
  nonempty : ∀ name ∈ names, normalizeName name ≠ ""
  identifiers : ∀ name ∈ names, isIdentifier (normalizeName name) = true
  unreserved : ∀ name ∈ names, isReserved extra (normalizeName name) = false
  distinct : (names.map fun name => Text.lower (normalizeName name)).Nodup

/-- What stands between the underscores of a name. -/
def withoutUnderscores (name : String) : String :=
  String.ofList (name.toList.filter (· != '_'))

variable {extra names : List String} {name one two : String}

section Identifiers

variable {c : Char}

theorem continuesIdentifier_of_startsIdentifier (starts : startsIdentifier c = true) :
    continuesIdentifier c = true := by
  simp only [startsIdentifier, continuesIdentifier, Char.isAlphanum, Bool.or_eq_true] at starts ⊢
  rcases starts with letter | underscore
  · exact .inl (.inl letter)
  · exact .inr underscore

theorem ascii_of_continuesIdentifier (continues : continuesIdentifier c = true) :
    c.toNat < 128 := by
  have value : c.toNat = c.val.toNat := rfl
  rcases Bool.or_eq_true_iff.mp continues with alphanumeric | underscore
  · rcases Bool.or_eq_true_iff.mp alphanumeric with letter | digit
    · rcases Bool.or_eq_true_iff.mp letter with upper | lower
      · have bound : c.val.toNat ≤ 90 := UInt32.le_iff_toNat_le.mp (of_decide_eq_true upper).2
        omega
      · obtain ⟨-, below⟩ := Bool.and_eq_true_iff.mp lower
        have bound : c.val.toNat ≤ 122 := UInt32.le_iff_toNat_le.mp (of_decide_eq_true below)
        omega
    · obtain ⟨-, below⟩ := Bool.and_eq_true_iff.mp digit
      have bound : c.val.toNat ≤ 57 := UInt32.le_iff_toNat_le.mp (of_decide_eq_true below)
      omega
  · rw [eq_of_beq underscore]
    decide

theorem forall_continuesIdentifier (identifier : isIdentifier name = true) :
    ∀ c ∈ name.toList, continuesIdentifier c = true := by
  unfold isIdentifier at identifier
  split at identifier
  · cases identifier
  · next first rest text =>
      obtain ⟨head, tail⟩ := Bool.and_eq_true_iff.mp identifier
      intro c member
      rw [text] at member
      rcases List.mem_cons.mp member with rfl | member
      · exact continuesIdentifier_of_startsIdentifier head
      · exact List.all_eq_true.mp tail c member

theorem isAscii_of_isIdentifier (identifier : isIdentifier name = true) :
    IsAscii name.toList := fun c member =>
  ascii_of_continuesIdentifier (forall_continuesIdentifier identifier c member)

theorem startsIdentifier_toLower : startsIdentifier c.toLower = startsIdentifier c :=
  Text.apply_toLower (by decide) c

theorem continuesIdentifier_toLower : continuesIdentifier c.toLower = continuesIdentifier c :=
  Text.apply_toLower (by decide) c

theorem isIdentifier_asciiLower : isIdentifier (Text.asciiLower name) = isIdentifier name := by
  unfold isIdentifier Text.asciiLower
  rw [String.toList_ofList]
  cases name.toList with
  | nil => rfl
  | cons first rest =>
      simp [startsIdentifier_toLower, continuesIdentifier_toLower, List.all_map,
        Function.comp_def]

theorem isIdentifier_congr (alike : eqIgnoringAsciiCase one two = true) :
    isIdentifier one = isIdentifier two := by
  have same : Text.asciiLower one = Text.asciiLower two :=
    congrArg String.ofList (Text.eqIgnoringAsciiCase_iff.mp alike)
  rw [← isIdentifier_asciiLower, same, isIdentifier_asciiLower]

end Identifiers

theorem isReserved_congr (ascii : IsAscii one.toList)
    (alike : eqIgnoringAsciiCase one two = true) : isReserved extra one = isReserved extra two := by
  have same := Text.eqIgnoringAsciiCase_iff.mp alike
  have ascii' : IsAscii two.toList := by
    rw [← Text.isAscii_map_toLower, ← same, Text.isAscii_map_toLower]
    exact ascii
  have lower : Text.lower one = Text.lower two := by
    rw [Text.lower_of_ascii ascii, Text.lower_of_ascii ascii', Text.asciiLower,
      Text.asciiLower, same]
  have listed : ∀ word, eqIgnoringAsciiCase word one = eqIgnoringAsciiCase word two := by
    intro word
    rw [eqIgnoringAsciiCase, eqIgnoringAsciiCase, same]
  simp only [isReserved, lower, listed]

section Normalizing

theorem map_toLower_capitalize {piece : List Char} (ascii : IsAscii piece) :
    (capitalize piece).map Char.toLower = piece.map Char.toLower := by
  cases piece with
  | nil => rfl
  | cons first rest =>
      have head := ascii first List.mem_cons_self
      simp [capitalize, Text.upperChar_of_ascii head, Text.toLower_toUpper head]

theorem map_toLower_normalizeName (ascii : IsAscii name.toList) :
    (normalizeName name).toList.map Char.toLower =
      (name.toList.filter (!isSeparator ·)).map Char.toLower := by
  have pieces : ∀ piece ∈ Text.cutList isSeparator name.toList, IsAscii piece := by
    intro piece member c inPiece
    have inName : c ∈ (Text.cutList isSeparator name.toList).flatten :=
      List.mem_flatten_of_mem member inPiece
    rw [Text.flatten_cutList] at inName
    exact ascii c (List.mem_of_mem_filter inName)
  rw [normalizeName, String.toList_ofList, ← Text.flatten_cutList, List.map_flatMap, List.map_flatten,
    List.flatMap_def]
  congr 1
  exact List.map_congr_left fun piece member => map_toLower_capitalize (pieces piece member)

theorem isSeparator_of_continuesIdentifier {c : Char} (continues : continuesIdentifier c = true) :
    isSeparator c = (c == '_') := by
  have word : Text.isWordChar c = true := by
    rw [Text.isWordChar_of_ascii (ascii_of_continuesIdentifier continues)]
    exact continues
  rw [isSeparator, word]
  rfl

/-- The normalized form of an identifier keeps all but the underscores. -/
theorem normalizeName_alike (identifier : isIdentifier name = true) :
    eqIgnoringAsciiCase (normalizeName name) (withoutUnderscores name) = true := by
  have kept : name.toList.filter (!isSeparator ·) = name.toList.filter (· != '_') := by
    apply List.filter_congr
    intro c member
    rw [isSeparator_of_continuesIdentifier (forall_continuesIdentifier identifier c member)]
    rfl
  rw [Text.eqIgnoringAsciiCase_iff, map_toLower_normalizeName (isAscii_of_isIdentifier identifier),
    kept, withoutUnderscores, String.toList_ofList]

theorem isReserved_normalizeName (identifier : isIdentifier name = true) :
    isReserved extra (normalizeName name) = isReserved extra (withoutUnderscores name) := by
  have alike := normalizeName_alike identifier
  have ascii : IsAscii (withoutUnderscores name).toList := by
    rw [withoutUnderscores, String.toList_ofList]
    intro c member
    exact isAscii_of_isIdentifier identifier c (List.mem_of_mem_filter member)
  rw [Text.eqIgnoringAsciiCase_comm] at alike
  exact (isReserved_congr ascii alike).symm

end Normalizing

namespace Checks

variable {policy : Policy}

theorem nameFindings_eq_nil_iff {owner : Option String} :
    nameFindings policy name owner = [] ↔
      isIdentifier name = true ∧ isReserved policy.extraReservedWords name = false ∧
        owner = none := by
  cases owner <;> simp [nameFindings]

/-- A name is claimed by the first name of its normalized form, if that is not
empty. -/
theorem namesFindings_eq_nil_iff {claimed : Table String} :
    namesFindings policy names claimed = [] ↔
      (∀ name ∈ names,
        isIdentifier name = true ∧ isReserved policy.extraReservedWords name = false) ∧
      (typeKeys names).Nodup ∧ ∀ key ∈ typeKeys names, key ∉ claimed.names := by
  induction names generalizing claimed with
  | nil => simp [namesFindings, typeKeys]
  | cons name rest ih =>
      unfold namesFindings
      by_cases empty : normalizeName name = ""
      · have keys : typeKeys (name :: rest) = typeKeys rest := by simp [typeKeys, empty]
        simp [empty, nameFindings_eq_nil_iff, ih, keys, and_assoc]
      · have keys : typeKeys (name :: rest) =
            Text.lower (normalizeName name) :: typeKeys rest := by simp [typeKeys, empty]
        cases found : claimed.get? (Text.lower (normalizeName name)) with
        | some first =>
            have taken : Text.lower (normalizeName name) ∈ claimed.names := by
              rw [← Table.get?_isSome_iff, found]
              rfl
            simp [empty, found, nameFindings_eq_nil_iff, keys, taken]
        | none =>
            have free : Text.lower (normalizeName name) ∉ claimed.names := by
              rw [← Table.get?_isSome_iff, found]
              simp
            simp only [empty, found, beq_iff_eq, if_false, List.append_eq_nil_iff,
              nameFindings_eq_nil_iff, ih, keys, Table.mem_names_put, List.forall_mem_cons,
              List.nodup_cons, not_or, and_true]
            constructor
            · rintro ⟨⟨identifier, unreserved⟩, clean, distinct, fresh⟩
              exact ⟨⟨⟨identifier, unreserved⟩, clean⟩,
                ⟨fun member => (fresh _ member).1 rfl, distinct⟩, free,
                fun key member => (fresh key member).2⟩
            · rintro ⟨⟨⟨identifier, unreserved⟩, clean⟩, ⟨unlisted, distinct⟩, -, fresh⟩
              refine ⟨⟨identifier, unreserved⟩, clean, distinct, ?_⟩
              intro key member
              refine ⟨?_, fresh key member⟩
              rintro rfl
              exact unlisted member

theorem naming_eq_self_iff {d : Document} {s : Session} :
    (naming.run d s).findings = s.findings ↔
      (∀ name ∈ d.schemas.names,
        isIdentifier name = true ∧ isReserved s.policy.extraReservedWords name = false) ∧
      (typeKeys d.schemas.names).Nodup := by
  have added : (naming.run d s).findings =
      s.findings ++ namesFindings s.policy d.schemas.names [] := rfl
  rw [added, List.append_right_eq_self, namesFindings_eq_nil_iff]
  simp [Table.names]

end Checks

theorem usableTypeNames_iff
    (clean : ∀ name ∈ names, isIdentifier name = true ∧ isReserved extra name = false)
    (distinct : (typeKeys names).Nodup) :
    UsableTypeNames extra names ↔ ∀ name ∈ names,
      isIdentifier (withoutUnderscores name) = true ∧
        isReserved extra (withoutUnderscores name) = false := by
  constructor
  · intro usable name member
    have identifier := (clean name member).1
    rw [← isIdentifier_congr (normalizeName_alike identifier),
      ← isReserved_normalizeName identifier]
    exact ⟨usable.identifiers name member, usable.unreserved name member⟩
  · intro each
    have identifiers : ∀ name ∈ names, isIdentifier (normalizeName name) = true := by
      intro name member
      rw [isIdentifier_congr (normalizeName_alike (clean name member).1)]
      exact (each name member).1
    have nonempty : ∀ name ∈ names, normalizeName name ≠ "" := by
      intro name member empty
      have identifier := identifiers name member
      rw [empty] at identifier
      cases identifier
    constructor
    · exact nonempty
    · exact identifiers
    · intro name member
      rw [isReserved_normalizeName (clean name member).1]
      exact (each name member).2
    · have all : (names.map normalizeName).filter (· != "") = names.map normalizeName := by
        simpa [List.filter_eq_self] using nonempty
      rw [typeKeys, all, List.map_map] at distinct
      exact distinct

namespace Checks

/-- Where the check of names finds nothing, the names are identifiers and no
keywords, their normalized forms are the names without their underscores up to
case, and the forms that are not empty differ.  The forms are usable exactly when
the names without their underscores are identifiers and no keywords. -/
theorem naming_clean (d : Document) (s : Session)
    (clean : (naming.run d s).findings = s.findings) :
    (∀ name ∈ d.schemas.names,
      isIdentifier name = true ∧ isReserved s.policy.extraReservedWords name = false ∧
        eqIgnoringAsciiCase (normalizeName name) (withoutUnderscores name) = true) ∧
      (typeKeys d.schemas.names).Nodup ∧
      (UsableTypeNames s.policy.extraReservedWords d.schemas.names ↔
        ∀ name ∈ d.schemas.names, isIdentifier (withoutUnderscores name) = true ∧
          isReserved s.policy.extraReservedWords (withoutUnderscores name) = false) := by
  obtain ⟨names, distinct⟩ := naming_eq_self_iff.mp clean
  refine ⟨?_, distinct, usableTypeNames_iff names distinct⟩
  intro name member
  obtain ⟨identifier, unreserved⟩ := names name member
  exact ⟨identifier, unreserved, normalizeName_alike identifier⟩

/-- Names with underscores that hide nothing. -/
def wellNamed : Document where
  components := some { schemas := [("Pet", {}), ("pet_list", {}), ("_error", {})] }

theorem naming_clean_wellNamed :
    (naming.run wellNamed {}).findings = [] ∧ UsableTypeNames [] wellNamed.schemas.names := by
  have clean : (naming.run wellNamed {}).findings = [] := by decide +kernel
  obtain ⟨-, -, usable⟩ := naming_clean wellNamed {} clean
  exact ⟨clean, usable.mpr (by decide +kernel)⟩

/-- Names whose underscores hide a keyword, a digit at the start, and that nothing
else is there. -/
def underscored : Document where
  components := some { schemas := [("_class", {}), ("_2fast", {}), ("_", {}), ("__", {})] }

theorem underscored_unusable :
    (naming.run underscored {}).findings = [] ∧
      isReserved [] (normalizeName "_class") = true ∧
      isIdentifier (normalizeName "_2fast") = false ∧
      normalizeName "_" = "" ∧ normalizeName "__" = "" ∧
      ¬UsableTypeNames [] underscored.schemas.names := by
  have reserved : isReserved [] (normalizeName "_class") = true := by decide +kernel
  refine ⟨by decide +kernel, reserved, by decide +kernel, by decide +kernel, by decide +kernel, ?_⟩
  intro usable
  have unreserved := usable.unreserved "_class" (by decide)
  rw [reserved] at unreserved
  cases unreserved

end Checks

end ApiReview
