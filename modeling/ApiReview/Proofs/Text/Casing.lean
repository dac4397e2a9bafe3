import ApiReview.Text.Ascii
import ApiReview.Text.Casing
import Mathlib.Data.List.Forall2

/-!
# Case of letters

In a text of ASCII characters the full case forms are those of the letters A to Z,
and no character changes the form of another one.  In any text the case of the
letters A to Z does not matter to the lower case form, and two texts are equal up to
it when they have the same lower case form and the same characters beyond ASCII.
-/

namespace ApiReview.Text

def IsAscii (text : List Char) : Prop :=
  ∀ c ∈ text, c.toNat < 128

variable {c : Char} {text other before before' : List Char} {s t : String}

/-- What holds of each of the 128 ASCII characters. -/
theorem forall_ascii {motive : Char → Prop} (each : ∀ n < 128, motive (Char.ofNat n))
    (c : Char) (ascii : c.toNat < 128) : motive c := by
  have holds := each c.toNat ascii
  rwa [Char.ofNat_toNat] at holds

theorem toLower_of_not_ascii (other : ¬c.toNat < 128) : c.toLower = c := by
  refine dif_neg ?_
  rintro ⟨-, upper⟩
  have bound : c.toNat ≤ 90 := UInt32.le_iff_toNat_le.mp upper
  omega

/-- What tells no ASCII character from its lower case form tells no character from it. -/
theorem apply_toLower {α : Type} {f : Char → α}
    (each : ∀ n < 128, f (Char.ofNat n).toLower = f (Char.ofNat n)) (c : Char) :
    f c.toLower = f c := by
  by_cases ascii : c.toNat < 128
  · exact forall_ascii (motive := fun c => f c.toLower = f c) each c ascii
  · rw [toLower_of_not_ascii ascii]

theorem toNat_toLower_lt_iff : c.toLower.toNat < 128 ↔ c.toNat < 128 := by
  by_cases ascii : c.toNat < 128
  · have lower : c.toLower.toNat < 128 :=
      forall_ascii (motive := fun c => c.toLower.toNat < 128) (by decide) c ascii
    exact iff_of_true lower ascii
  · rw [toLower_of_not_ascii ascii]

theorem toLower_toUpper (ascii : c.toNat < 128) : c.toUpper.toLower = c.toLower :=
  forall_ascii (motive := fun c => c.toUpper.toLower = c.toLower) (by decide) c ascii

theorem isAscii_map_toLower : IsAscii (text.map Char.toLower) ↔ IsAscii text := by
  simp [IsAscii, toNat_toLower_lt_iff]

theorem lowerChar_of_ascii (ascii : c.toNat < 128) : lowerChar c = [c.toLower] :=
  if_pos ascii

theorem upperChar_of_ascii (ascii : c.toNat < 128) : upperChar c = [c.toUpper] :=
  if_pos ascii

/-- The lower case form of one character between others, the nearest one before it first. -/
def lowerBetween (before : List Char) (c : Char) (after : List Char) : List Char :=
  if c == 'Σ' then
    if meetsCased before && !meetsCased after then ['ς'] else ['σ']
  else
    lowerChar c

theorem lowerFrom_cons (before : List Char) (c : Char) (after : List Char) :
    lowerFrom before (c :: after) = lowerBetween before c after ++ lowerFrom (c :: before) after :=
  rfl

theorem lowerBetween_of_ascii (ascii : c.toNat < 128) (before after : List Char) :
    lowerBetween before c after = [c.toLower] := by
  have noSigma : (c == 'Σ') = false := by
    apply beq_false_of_ne
    rintro rfl
    exact absurd ascii (by decide)
  rw [lowerBetween, noSigma]
  exact lowerChar_of_ascii ascii

theorem lowerFrom_of_ascii (ascii : IsAscii text) (before : List Char) :
    lowerFrom before text = text.map Char.toLower := by
  induction text generalizing before with
  | nil => rfl
  | cons c after ih =>
      obtain ⟨head, tail⟩ := List.forall_mem_cons.mp ascii
      rw [lowerFrom_cons, lowerBetween_of_ascii head, ih tail]
      rfl

theorem lower_of_ascii (ascii : IsAscii s.toList) : lower s = asciiLower s := by
  rw [lower, lowerFrom_of_ascii ascii, asciiLower]

theorem lowerChar_ne_nil (c : Char) : lowerChar c ≠ [] := by
  unfold lowerChar
  split_ifs <;> simp

/-- Lower case forms drop no character. -/
theorem lower_eq_empty_iff : lower s = "" ↔ s = "" := by
  have chars : lowerFrom [] s.toList = [] ↔ s.toList = [] := by
    cases s.toList with
    | nil => exact iff_of_true rfl rfl
    | cons c after =>
        refine iff_of_false (fun nothing => ?_) (List.cons_ne_nil c after)
        obtain ⟨form, -⟩ := List.append_eq_nil_iff.mp nothing
        split_ifs at form
        exact lowerChar_ne_nil c form
  rw [← String.toList_inj, lower, String.toList_ofList, String.toList_empty, chars,
    ← String.toList_inj, String.toList_empty]

theorem eqIgnoringAsciiCase_iff :
    eqIgnoringAsciiCase s t = true ↔ s.toList.map Char.toLower = t.toList.map Char.toLower :=
  beq_iff_eq

/-- Two characters are the same, or both are ASCII characters. -/
def MatchOutsideAscii (c e : Char) : Prop :=
  c = e ∨ c.toNat < 128 ∧ e.toNat < 128

instance (c e : Char) : Decidable (MatchOutsideAscii c e) :=
  inferInstanceAs (Decidable (_ ∨ _))

/-- Two texts hold the same characters beyond ASCII, at the same places. -/
def SameOutsideAscii (s t : String) : Prop :=
  List.Forall₂ MatchOutsideAscii s.toList t.toList

instance (s t : String) : Decidable (SameOutsideAscii s t) :=
  inferInstanceAs (Decidable (List.Forall₂ _ _ _))

theorem contains_caseIgnorableSet_toLower :
    caseIgnorableSet.contains c.toLower = caseIgnorableSet.contains c :=
  apply_toLower (by decide +kernel) c

theorem contains_casedSet_toLower : casedSet.contains c.toLower = casedSet.contains c :=
  apply_toLower (by decide +kernel) c

theorem meetsCased_map_toLower : meetsCased (text.map Char.toLower) = meetsCased text := by
  have same : caseIgnorableSet.contains ∘ Char.toLower = caseIgnorableSet.contains :=
    funext fun _ => contains_caseIgnorableSet_toLower
  rw [meetsCased, meetsCased, List.dropWhile_map, same]
  cases text.dropWhile caseIgnorableSet.contains with
  | nil => rfl
  | cons c rest => exact contains_casedSet_toLower

theorem toLower_toLower : c.toLower.toLower = c.toLower :=
  apply_toLower (f := Char.toLower) (by decide) c

theorem lowerChar_toLower : lowerChar c.toLower = lowerChar c := by
  by_cases ascii : c.toNat < 128
  · rw [lowerChar_of_ascii ascii, lowerChar_of_ascii (toNat_toLower_lt_iff.mpr ascii),
      toLower_toLower]
  · rw [toLower_of_not_ascii ascii]

theorem toLower_beq_sigma : (c.toLower == 'Σ') = (c == 'Σ') :=
  apply_toLower (f := (· == 'Σ')) (by decide) c

theorem lowerBetween_map_toLower (before : List Char) (c : Char) (after : List Char) :
    lowerBetween (before.map Char.toLower) c.toLower (after.map Char.toLower) =
      lowerBetween before c after := by
  rw [lowerBetween, lowerBetween, toLower_beq_sigma, meetsCased_map_toLower,
    meetsCased_map_toLower, lowerChar_toLower]

/-- The case of ASCII letters does not matter to the lower case form. -/
theorem lowerFrom_map_toLower (before text : List Char) :
    lowerFrom (before.map Char.toLower) (text.map Char.toLower) = lowerFrom before text := by
  induction text generalizing before with
  | nil => rfl
  | cons c after ih =>
      rw [List.map_cons, lowerFrom_cons, lowerFrom_cons, lowerBetween_map_toLower,
        ← List.map_cons, ih]

theorem length_lowerBetween (c : Char) (before after before' after' : List Char) :
    (lowerBetween before c after).length = (lowerBetween before' c after').length := by
  unfold lowerBetween
  split_ifs <;> rfl

/-- Texts with the same characters beyond ASCII differ in their lower case forms where
they differ in more than the case of a letter. -/
theorem map_toLower_of_lowerFrom (alike : List.Forall₂ MatchOutsideAscii text other)
    (same : lowerFrom before text = lowerFrom before' other) :
    text.map Char.toLower = other.map Char.toLower := by
  induction alike generalizing before before' with
  | nil => rfl
  | @cons c e text other pair rest ih =>
      rw [lowerFrom_cons, lowerFrom_cons] at same
      rcases pair with rfl | ⟨ascii, ascii'⟩
      · obtain ⟨-, later⟩ := List.append_inj same (length_lowerBetween c _ _ _ _)
        rw [List.map_cons, List.map_cons, ih later]
      · rw [lowerBetween_of_ascii ascii, lowerBetween_of_ascii ascii'] at same
        obtain ⟨head, later⟩ := List.cons.inj same
        rw [List.map_cons, List.map_cons, head, ih later]

theorem forall₂_of_map_toLower (same : text.map Char.toLower = other.map Char.toLower) :
    List.Forall₂ MatchOutsideAscii text other := by
  have pairs : List.Forall₂ (fun c e : Char => c.toLower = e.toLower) text other := by
    rw [← List.forall₂_map_right_iff, ← List.forall₂_map_left_iff, List.forall₂_eq_eq_eq]
    exact same
  refine pairs.imp fun c e equal => ?_
  by_cases ascii : c.toNat < 128
  · refine .inr ⟨ascii, ?_⟩
    rwa [← toNat_toLower_lt_iff, ← equal, toNat_toLower_lt_iff]
  · have ascii' : ¬e.toNat < 128 := by
      rwa [← toNat_toLower_lt_iff, ← equal, toNat_toLower_lt_iff]
    rw [toLower_of_not_ascii ascii, toLower_of_not_ascii ascii'] at equal
    exact .inl equal

/-- Equality up to the case of ASCII letters is equality of the lower case forms of
texts with the same characters beyond ASCII. -/
theorem eqIgnoringAsciiCase_iff_lower :
    eqIgnoringAsciiCase s t = true ↔ lower s = lower t ∧ SameOutsideAscii s t := by
  rw [eqIgnoringAsciiCase_iff]
  constructor
  · intro same
    refine ⟨?_, forall₂_of_map_toLower same⟩
    rw [lower, lower, ← lowerFrom_map_toLower, same, lowerFrom_map_toLower]
  · rintro ⟨same, alike⟩
    exact map_toLower_of_lowerFrom alike (String.ofList_inj.mp same)

end ApiReview.Text
