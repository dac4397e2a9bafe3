import ApiReview.Number.FromText
import Mathlib.Data.List.TakeWhile

/-!
# Which texts are numbers

A text is read as an integer exactly when it consists of digits behind an optional sign, and
as a binary64 number exactly when it is a decimal or one of some words behind an optional
sign.
-/

namespace ApiReview

variable {chars whole fraction rest : List Char} {text : String}

/-- All characters are decimal digits. -/
def Digits (chars : List Char) : Prop :=
  ∀ c ∈ chars, c.isDigit = true

/-- What a text is behind an optional sign. -/
def Signed (body : List Char → Prop) (chars : List Char) : Prop :=
  ∃ sign rest, sign ∈ [[], ['+'], ['-']] ∧ chars = sign ++ rest ∧ body rest

/-- The digits of a number. -/
structure NaturalText (chars : List Char) : Prop where
  filled : chars ≠ []
  digits : Digits chars

/-- The exponent of a decimal, which may be left out. -/
inductive ExponentText : List Char → Prop where
  | absent : ExponentText []
  | marked {mark : Char} {chars : List Char} :
    mark = 'e' ∨ mark = 'E' → Signed NaturalText chars → ExponentText (mark :: chars)

/-- A decimal without a sign. -/
inductive DecimalText : List Char → Prop where
  | whole {digits exponent : List Char} :
    NaturalText digits → ExponentText exponent → DecimalText (digits ++ exponent)
  | pointed {before behind exponent : List Char} :
    NaturalText (before ++ behind) → ExponentText exponent →
      DecimalText (before ++ '.' :: (behind ++ exponent))

/-- One of the words for infinity and for no number, in any case. -/
def NumberWord (chars : List Char) : Prop :=
  Text.asciiLower (String.ofList chars) ∈ ["inf", "infinity", "nan"]

/-- The text of a binary64 number. -/
def NumberText : List Char → Prop :=
  Signed fun chars => DecimalText chars ∨ NumberWord chars

section Signs

variable {body : List Char → Prop}

/-- What satisfies this does not begin with a sign. -/
def Unsigned (body : List Char → Prop) : Prop :=
  ∀ sign ∈ ['+', '-'], ∀ rest, ¬body (sign :: rest)

theorem signed_cons (unsigned : Unsigned body) {sign : Char} (isSign : sign ∈ ['+', '-']) :
    Signed body (sign :: rest) ↔ body rest := by
  constructor
  · rintro ⟨before, behind, optional, same, holds⟩
    simp only [List.mem_cons, List.not_mem_nil, or_false] at optional
    obtain rfl | rfl | rfl := optional
    · rw [List.nil_append] at same
      exact absurd (same ▸ holds) (unsigned sign isSign rest)
    · cases same
      exact holds
    · cases same
      exact holds
  · intro holds
    refine ⟨[sign], rest, ?_, rfl, holds⟩
    simpa using isSign

theorem signed_of_no_sign (first : ∀ sign ∈ ['+', '-'], ∀ rest, chars ≠ sign :: rest) :
    Signed body chars ↔ body chars := by
  constructor
  · rintro ⟨before, behind, optional, rfl, holds⟩
    simp only [List.mem_cons, List.not_mem_nil, or_false] at optional
    obtain rfl | rfl | rfl := optional
    · exact holds
    · exact absurd rfl (first '+' (by simp) behind)
    · exact absurd rfl (first '-' (by simp) behind)
  · intro holds
    exact ⟨[], chars, by simp, rfl, holds⟩

end Signs

theorem digitValue?_isSome_iff {c : Char} : (digitValue? 10 c).isSome ↔ c.isDigit = true := by
  unfold digitValue?
  by_cases digit : c.isDigit = true
  · obtain ⟨-, atMost⟩ := Char.isDigit_iff_toNat.mp digit
    have small : c.toNat - 48 < 10 := by
      change c.toNat ≤ 57 at atMost
      omega
    simp [digit, small]
  · by_cases letter : c.isAlpha = true <;> simp [digit, letter]

theorem foldl_digits_isSome_iff (value : Option Nat) :
    (chars.foldl (fun value c => do some (10 * (← value) + (← digitValue? 10 c))) value).isSome ↔
      value.isSome ∧ Digits chars := by
  induction chars generalizing value with
  | nil => simp [Digits]
  | cons c rest ih =>
    rw [List.foldl_cons, ih]
    have step : (do some (10 * (← value) + (← digitValue? 10 c)) : Option Nat).isSome ↔
        value.isSome ∧ c.isDigit = true := by
      rw [← digitValue?_isSome_iff]
      cases value <;> cases digitValue? 10 c <;> simp
    rw [step, Digits, Digits, List.forall_mem_cons, and_assoc]

theorem natOfDigits?_isSome_iff : (natOfDigits? 10 chars).isSome ↔ NaturalText chars := by
  cases chars with
  | nil =>
    constructor
    · intro read
      cases read
    · intro natural
      exact absurd rfl natural.filled
  | cons c rest =>
    have read : (natOfDigits? 10 (c :: rest)).isSome ↔ Digits (c :: rest) :=
      (foldl_digits_isSome_iff (some 0)).trans (by simp)
    rw [read]
    constructor
    · intro digits
      exact ⟨List.cons_ne_nil c rest, digits⟩
    · intro natural
      exact natural.digits

theorem unsigned_naturalText : Unsigned NaturalText := by
  intro sign isSign rest natural
  have digit : sign.isDigit = true := natural.digits sign (List.mem_cons_self ..)
  have noDigit : ∀ sign ∈ ['+', '-'], sign.isDigit = false := by simp
  rw [noDigit sign isSign] at digit
  cases digit

theorem intOfText?_isSome_iff : (intOfText? text).isSome ↔ Signed NaturalText text.toList := by
  unfold intOfText?
  split
  · next digits same =>
    rw [same, signed_cons unsigned_naturalText (by simp), ← natOfDigits?_isSome_iff]
    cases natOfDigits? 10 digits <;> simp
  · next digits same =>
    rw [same, signed_cons unsigned_naturalText (by simp), ← natOfDigits?_isSome_iff]
    cases natOfDigits? 10 digits <;> simp
  · next minus plus =>
    rw [signed_of_no_sign (by simpa using ⟨plus, minus⟩), ← natOfDigits?_isSome_iff]
    cases natOfDigits? 10 text.toList <;> simp

/-- What does not begin with a digit. -/
def NoDigitFirst (chars : List Char) : Prop :=
  ∀ c rest, chars = c :: rest → c.isDigit = false

theorem takeWhile_digits (digits : Digits whole) (stop : NoDigitFirst rest) :
    (whole ++ rest).takeWhile Char.isDigit = whole := by
  rw [List.takeWhile_append_of_pos digits]
  cases rest with
  | nil => simp
  | cons c rest => simp [stop c rest rfl]

theorem dropWhile_digits (digits : Digits whole) (stop : NoDigitFirst rest) :
    (whole ++ rest).dropWhile Char.isDigit = rest := by
  rw [List.dropWhile_append_of_pos digits]
  cases rest with
  | nil => rfl
  | cons c rest => simp [stop c rest rfl]

/-- Every text is digits and something that does not begin with one. -/
theorem exists_digits (chars : List Char) :
    ∃ whole rest, chars = whole ++ rest ∧ Digits whole ∧ NoDigitFirst rest := by
  refine ⟨chars.takeWhile Char.isDigit, chars.dropWhile Char.isDigit,
    List.takeWhile_append_dropWhile.symm, ?_, ?_⟩
  · intro c member
    exact List.mem_takeWhile_imp member
  · intro c rest same
    have stopped := List.head?_dropWhile_not Char.isDigit chars
    rw [same] at stopped
    simpa using stopped

namespace ExponentText

theorem first_eq {c : Char} (exponent : ExponentText (c :: rest)) : c = 'e' ∨ c = 'E' := by
  cases exponent with
  | marked isMark digits => exact isMark

theorem noDigitFirst (exponent : ExponentText chars) : NoDigitFirst chars := by
  rintro c following rfl
  obtain rfl | rfl := exponent.first_eq <;> rfl

end ExponentText

theorem DecimalText.exists_first (decimal : DecimalText chars) :
    ∃ c rest, chars = c :: rest ∧ (c.isDigit = true ∨ c = '.') := by
  cases decimal with
  | whole natural exponent =>
    obtain ⟨c, digits, rfl⟩ := List.exists_cons_of_ne_nil natural.filled
    exact ⟨c, _, rfl, .inl (natural.digits c (List.mem_cons_self ..))⟩
  | @pointed before behind exponent natural isExponent =>
    cases before with
    | nil => exact ⟨'.', _, rfl, .inr rfl⟩
    | cons c before => exact ⟨c, _, rfl, .inl (natural.digits c (by simp))⟩

namespace Binary64

variable {negative : Bool}

theorem exponent?_cons_isSome_iff {mark : Char} :
    (exponent? (mark :: rest)).isSome ↔
      (mark = 'e' ∨ mark = 'E') ∧ Signed NaturalText rest := by
  have read : (intOfText? (String.ofList rest)).isSome ↔ _ := intOfText?_isSome_iff
  rw [String.toList_ofList] at read
  rw [← read, exponent?]
  by_cases isMark : mark = 'e' ∨ mark = 'E' <;> simp [isMark]

theorem exponent?_isSome_iff : (exponent? chars).isSome ↔ ExponentText chars := by
  cases chars with
  | nil => simp [exponent?, ExponentText.absent]
  | cons mark rest =>
    rw [exponent?_cons_isSome_iff]
    constructor
    · rintro ⟨isMark, digits⟩
      exact .marked isMark digits
    · intro exponent
      cases exponent with
      | marked isMark digits => exact ⟨isMark, digits⟩

/-- The decimal with the given digits and exponent. -/
def ofParts? (negative : Bool) (whole fraction exponent : List Char) : Option Binary64 :=
  match natOfDigits? 10 (whole ++ fraction), exponent? exponent with
  | some digits, some power => some (.ofDecimal negative digits (power - fraction.length))
  | _, _ => none

theorem ofParts?_isSome_iff : (ofParts? negative whole fraction rest).isSome ↔
    NaturalText (whole ++ fraction) ∧ ExponentText rest := by
  rw [← natOfDigits?_isSome_iff, ← exponent?_isSome_iff, ofParts?]
  cases natOfDigits? 10 (whole ++ fraction) with
  | none => simp
  | some digits => cases exponent? rest <;> simp

theorem ofUnsigned?_whole (digits : Digits whole) (stop : NoDigitFirst rest)
    (noPoint : ∀ behind, rest ≠ '.' :: behind) :
    ofUnsigned? negative (whole ++ rest) = ofParts? negative whole [] rest := by
  unfold ofUnsigned?
  rw [takeWhile_digits digits stop, dropWhile_digits digits stop]
  split
  next parts =>
  split at parts
  · next behind => exact absurd rfl (noPoint behind)
  · cases parts
    rfl

theorem ofUnsigned?_pointed (digits : Digits whole) (behind : Digits fraction)
    (stop : NoDigitFirst rest) :
    ofUnsigned? negative (whole ++ '.' :: (fraction ++ rest)) =
      ofParts? negative whole fraction rest := by
  have point : NoDigitFirst ('.' :: (fraction ++ rest)) := by
    rintro c following ⟨⟩
    rfl
  unfold ofUnsigned?
  rw [takeWhile_digits digits point, dropWhile_digits digits point]
  split
  next parts =>
  change ((fraction ++ rest).takeWhile Char.isDigit, (fraction ++ rest).dropWhile Char.isDigit) =
    _ at parts
  rw [takeWhile_digits behind stop, dropWhile_digits behind stop] at parts
  cases parts
  rfl

theorem ofUnsigned?_isSome_iff : (ofUnsigned? negative chars).isSome ↔ DecimalText chars := by
  constructor
  · intro read
    obtain ⟨whole, rest, rfl, digits, stop⟩ := exists_digits chars
    by_cases pointed : ∃ behind, rest = '.' :: behind
    · obtain ⟨behind, rfl⟩ := pointed
      obtain ⟨fraction, exponent, rfl, fractionDigits, fractionStop⟩ := exists_digits behind
      rw [ofUnsigned?_pointed digits fractionDigits fractionStop, ofParts?_isSome_iff] at read
      exact .pointed read.1 read.2
    · rw [ofUnsigned?_whole digits stop (not_exists.mp pointed), ofParts?_isSome_iff,
        List.append_nil] at read
      exact .whole read.1 read.2
  · intro decimal
    cases decimal with
    | @whole digits exponent natural isExponent =>
      have noPoint : ∀ behind, exponent ≠ '.' :: behind := by
        rintro behind rfl
        exact absurd isExponent.first_eq (by decide)
      rw [ofUnsigned?_whole natural.digits isExponent.noDigitFirst noPoint, ofParts?_isSome_iff,
        List.append_nil]
      exact ⟨natural, isExponent⟩
    | pointed natural isExponent =>
      obtain ⟨before, behind⟩ := List.forall_mem_append.mp natural.digits
      rw [ofUnsigned?_pointed before behind isExponent.noDigitFirst, ofParts?_isSome_iff]
      exact ⟨natural, isExponent⟩

theorem ofWord?_isSome_iff :
    (ofWord? negative (String.ofList chars)).isSome ↔ NumberWord chars := by
  unfold ofWord? NumberWord
  generalize Text.asciiLower (String.ofList chars) = lower
  by_cases infinite : lower = "inf" ∨ lower = "infinity"
  · obtain rfl | rfl := infinite <;> simp
  · obtain ⟨short, long⟩ := not_or.mp infinite
    by_cases nan : lower = "nan" <;> simp [short, long, nan]

theorem unsigned_decimalText_or_numberWord :
    Unsigned fun chars => DecimalText chars ∨ NumberWord chars := by
  rintro sign isSign rest (decimal | word)
  · obtain ⟨_, _, ⟨⟩, first⟩ := decimal.exists_first
    have other : ∀ sign ∈ ['+', '-'], ¬(sign.isDigit = true ∨ sign = '.') := by simp
    exact other sign isSign first
  · have spelled : (sign :: rest).map Char.toLower ∈
        ["inf".toList, "infinity".toList, "nan".toList] := by
      simpa [NumberWord, Text.asciiLower, ← String.toList_inj] using word
    have heads : ∀ word ∈ ["inf".toList, "infinity".toList, "nan".toList],
        word.head? ∈ [some 'i', some 'n'] := by decide
    have first : sign.toLower ∈ ['i', 'n'] := by simpa using heads _ spelled
    have other : ∀ sign ∈ ['+', '-'], sign.toLower ∉ ['i', 'n'] := by simp
    exact other sign isSign first

/-- What is read behind the sign. -/
def ofBody? (negative : Bool) (chars : List Char) : Option Binary64 :=
  match ofUnsigned? negative chars with
  | some x => some x
  | none => ofWord? negative (String.ofList chars)

theorem ofBody?_isSome_iff :
    (ofBody? negative chars).isSome ↔ DecimalText chars ∨ NumberWord chars := by
  have decimal : (ofUnsigned? negative chars).isSome ↔ _ := ofUnsigned?_isSome_iff
  have word : (ofWord? negative (String.ofList chars)).isSome ↔ _ := ofWord?_isSome_iff
  rw [← decimal, ← word, ofBody?]
  cases ofUnsigned? negative chars <;> simp

theorem ofText?_isSome_iff : (ofText? text).isSome ↔ NumberText text.toList := by
  unfold ofText? NumberText
  split
  next negative chars parts =>
  change (ofBody? negative chars).isSome ↔ _
  rw [ofBody?_isSome_iff]
  split at parts
  · next rest same =>
    cases parts
    rw [same, signed_cons unsigned_decimalText_or_numberWord (by simp)]
  · next rest same =>
    cases parts
    rw [same, signed_cons unsigned_decimalText_or_numberWord (by simp)]
  · next minus plus =>
    cases parts
    rw [signed_of_no_sign (by simpa using ⟨plus, minus⟩)]

end Binary64

end ApiReview
