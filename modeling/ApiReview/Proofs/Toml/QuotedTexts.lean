import ApiReview.Toml.Printer
import ApiReview.Toml.Quoted
import Mathlib.Tactic.SplitIfs

/-!
# Quoted texts are read back

A text is written between quotes or apostrophes that suit it, and what is read of
it is the text, provided that no quote or apostrophe follows.
-/

namespace ApiReview.Toml

variable {multi : Bool} {c d : Char} {chars rest : List Char}

theorem prepend_some (c : Char) (chars rest : List Char) :
    prepend c (some (chars, rest)) = some (c :: chars, rest) :=
  rfl

theorem isTextChar_of_not_isControl (plain : isControl c = false) (notBreak : c ≠ '\n') :
    isTextChar c = true := by
  unfold isControl at plain
  unfold isTextChar
  grind

section Runs

theorem le_longestRun (d : Char) (run : Nat) (chars : List Char) :
    run ≤ longestRun d run chars := by
  induction chars generalizing run with
  | nil => simp [longestRun]
  | cons c rest ih =>
      unfold longestRun
      split
      · exact Nat.le_of_succ_le (ih (run + 1))
      · exact Nat.le_max_left _ _

theorem longestRun_mono (d : Char) {run longer : Nat} (le : run ≤ longer) (chars : List Char) :
    longestRun d run chars ≤ longestRun d longer chars := by
  induction chars generalizing run longer with
  | nil => simpa [longestRun] using le
  | cons c rest ih =>
      unfold longestRun
      split
      · exact ih (Nat.succ_le_succ le)
      · omega

/-- Runs do not get longer when a text gets shorter. -/
theorem longestRun_tail_le (c d : Char) (rest : List Char) :
    longestRun d 0 rest ≤ longestRun d 0 (c :: rest) := by
  rw [longestRun.eq_def d 0 (c :: rest)]
  dsimp only
  split
  · exact longestRun_mono d (Nat.zero_le 1) rest
  · exact Nat.le_max_right _ _

theorem ne_of_longestRun_eq_zero (none : longestRun d 0 chars = 0) : ∀ c ∈ chars, c ≠ d := by
  induction chars with
  | nil => simp
  | cons c rest ih =>
      have restNone : longestRun d 0 rest = 0 := by
        have := longestRun_tail_le c d rest
        omega
      have other : c ≠ d := by
        rintro rfl
        have := le_longestRun c (0 + 1) rest
        rw [longestRun, if_pos rfl] at none
        omega
      intro e member
      rcases List.mem_cons.mp member with rfl | member
      · exact other
      · exact ih restNone e member

end Runs

section Literal

theorem literalFrom_cons (other : c ≠ '\'')
    (allowed : isTextChar c = true ∨ multi = true ∧ c = '\n') :
    literalFrom multi (c :: rest) = prepend c (literalFrom multi rest) := by
  rw [literalFrom.eq_def]
  simp [allowed]

/-- An apostrophe behind which there are less than two does not close. -/
theorem literalFrom_apostrophe (few : ∀ behind, chars ≠ '\'' :: '\'' :: behind) :
    literalFrom true ('\'' :: chars) = prepend '\'' (literalFrom true chars) := by
  rw [literalFrom.eq_def]
  simp [few]

theorem literalFrom_single (allowed : ∀ c ∈ chars, c ≠ '\'' ∧ isTextChar c = true) :
    literalFrom false (chars ++ '\'' :: rest) = some (chars, rest) := by
  induction chars with
  | nil => rfl
  | cons c chars ih =>
      obtain ⟨first, others⟩ := List.forall_mem_cons.mp allowed
      rw [List.cons_append, literalFrom_cons first.1 (.inl first.2), ih others, prepend_some]

/-- Up to two apostrophes may stand before the ones that close. -/
theorem literalFrom_closing (behind : rest.head? ≠ some '\'') :
    literalFrom true ('\'' :: '\'' :: '\'' :: rest) = some ([], rest) ∧
    literalFrom true ('\'' :: '\'' :: '\'' :: '\'' :: rest) = some (['\''], rest) ∧
    literalFrom true ('\'' :: '\'' :: '\'' :: '\'' :: '\'' :: rest) =
      some (['\'', '\''], rest) := by
  cases rest with
  | nil => exact ⟨rfl, rfl, rfl⟩
  | cons d rest =>
      have other : d ≠ '\'' := by simpa using behind
      refine ⟨?_, ?_, rfl⟩ <;> rw [literalFrom.eq_def] <;> simp [other]

theorem literalFrom_multi (short : longestRun '\'' 0 chars ≤ 2)
    (allowed : ∀ c ∈ chars, isTextChar c = true ∨ c = '\n') (behind : rest.head? ≠ some '\'') :
    literalFrom true (chars ++ '\'' :: '\'' :: '\'' :: rest) = some (chars, rest) := by
  obtain ⟨closing, closingOne, closingTwo⟩ := literalFrom_closing behind
  induction chars with
  | nil => exact closing
  | cons c chars ih =>
      obtain ⟨first, others⟩ := List.forall_mem_cons.mp allowed
      have tail := ih (Nat.le_trans (longestRun_tail_le c '\'' chars) short) others
      by_cases apostrophe : c = '\''
      · subst apostrophe
        -- What the apostrophe means depends on how many others follow it.
        cases chars with
        | nil => exact closingOne
        | cons d chars =>
            by_cases last : d = '\'' ∧ chars = []
            · obtain ⟨rfl, rfl⟩ := last
              exact closingTwo
            · have few : ∀ behind,
                  d :: chars ++ '\'' :: '\'' :: '\'' :: rest ≠ '\'' :: '\'' :: behind := by
                intro behind same
                obtain ⟨rfl, -⟩ := List.cons.inj same
                cases chars with
                | nil => exact last ⟨rfl, rfl⟩
                | cons e chars =>
                    obtain ⟨rfl, -⟩ := List.cons.inj (List.cons.inj same).2
                    have long := le_longestRun '\'' (0 + 1 + 1 + 1) chars
                    simp only [longestRun, if_true] at short
                    omega
              rw [List.cons_append, literalFrom_apostrophe few, tail, prepend_some]
      · rw [List.cons_append, literalFrom_cons apostrophe (by simpa using first), tail,
          prepend_some]

end Literal

section Quoted

theorem quotedFrom_cons (notQuote : c ≠ '"') (notEscape : c ≠ '\\')
    (allowed : isTextChar c = true ∨ multi = true ∧ c = '\n') :
    quotedFrom multi .plain (c :: rest) = prepend c (quotedFrom multi .plain rest) := by
  rw [quotedFrom.eq_def]
  simp [allowed]

theorem quotedFrom_shortEscape {read : Char} (short : shortEscape? c = some read)
    (notPoint : c ≠ 'u' ∧ c ≠ 'U') :
    quotedFrom multi .plain ('\\' :: c :: rest) =
      prepend read (quotedFrom multi .plain rest) := by
  rw [quotedFrom.eq_def]
  simp [short, notPoint]

theorem fourDigits_below : ∀ n < 128, (fourDigits n).length = 4 ∧
    codePoint? (fourDigits n) = some (Char.ofNat n) ∧ '\r' ∉ fourDigits n := by
  decide +kernel

theorem quotedFrom_codePoint {digits : List Char} (four : digits.length = 4)
    (point : codePoint? digits = some c) :
    quotedFrom multi .plain ('\\' :: 'u' :: (digits ++ rest)) =
      prepend c (quotedFrom multi .plain rest) := by
  match digits, four with
  | [_, _, _, _], _ =>
      rw [List.cons_append, List.cons_append, List.cons_append, List.cons_append,
        List.nil_append, quotedFrom.eq_def]
      simp [point]

theorem toNat_of_isControl (control : isControl c = true) : c.toNat < 128 := by
  unfold isControl at control
  simp only [Bool.or_eq_true, Bool.and_eq_true, decide_eq_true_eq, beq_iff_eq] at control
  rcases control with ⟨⟨below, -⟩, -⟩ | rfl
  · exact Nat.lt_trans (Char.lt_def.mp below) (by decide)
  · decide

/-- How a character other than a quote is written. -/
theorem escaped_cases (multi : Bool) (c : Char) :
    (∃ e, escaped multi c = ['\\', e] ∧ shortEscape? e = some c ∧ e ≠ 'u' ∧ e ≠ 'U' ∧ e ≠ '\r') ∨
    (escaped multi c = '\\' :: 'u' :: fourDigits c.toNat ∧ c.toNat < 128) ∨
    (escaped multi c = [c] ∧ c ≠ '\\' ∧ c ≠ '\r' ∧
      (isTextChar c = true ∨ multi = true ∧ c = '\n')) := by
  unfold escaped
  simp only [beq_iff_eq]
  split_ifs with backspace tab newline several feed ret backslash control
  · exact .inl ⟨'b', rfl, by rw [backspace]; rfl, by decide⟩
  · exact .inl ⟨'t', rfl, by rw [tab]; rfl, by decide⟩
  · exact .inr (.inr ⟨by rw [newline], by rw [newline]; decide, by rw [newline]; decide,
      .inr ⟨several, newline⟩⟩)
  · exact .inl ⟨'n', rfl, by rw [newline]; rfl, by decide⟩
  · exact .inl ⟨'f', rfl, by rw [feed]; rfl, by decide⟩
  · exact .inl ⟨'r', rfl, by rw [ret]; rfl, by decide⟩
  · exact .inl ⟨'\\', rfl, by rw [backslash]; rfl, by decide⟩
  · exact .inr (.inl ⟨rfl, toNat_of_isControl control⟩)
  · have plain : isControl c = false := by simpa using control
    exact .inr (.inr ⟨rfl, backslash, ret, .inl (isTextChar_of_not_isControl plain newline)⟩)

theorem quotedFrom_escaped (notQuote : c ≠ '"') :
    quotedFrom multi .plain (escaped multi c ++ rest) =
      prepend c (quotedFrom multi .plain rest) := by
  rcases escaped_cases multi c with ⟨e, written, short, noPoint, noLongPoint, -⟩ |
    ⟨written, small⟩ | ⟨written, notEscape, -, allowed⟩
  · rw [written]
    exact quotedFrom_shortEscape short ⟨noPoint, noLongPoint⟩
  · obtain ⟨four, point, -⟩ := fourDigits_below c.toNat small
    rw [Char.ofNat_toNat] at point
    rw [written]
    exact quotedFrom_codePoint four point
  · rw [written]
    exact quotedFrom_cons notQuote notEscape allowed

/-- What is written for a character other than a quote begins with no quote, and with a
line break only for a line break. -/
theorem escaped_eq_cons (multi : Bool) (notQuote : c ≠ '"') :
    ∃ first others, escaped multi c = first :: others ∧ first ≠ '"' ∧
      (first = '\n' → c = '\n') := by
  rcases escaped_cases multi c with ⟨e, written, -⟩ | ⟨written, -⟩ | ⟨written, -⟩
  · exact ⟨_, _, written, by decide, nofun⟩
  · exact ⟨_, _, written, by decide, nofun⟩
  · exact ⟨_, _, written, notQuote, id⟩

theorem return_notMem_escaped (multi : Bool) (c : Char) : '\r' ∉ escaped multi c := by
  rcases escaped_cases multi c with ⟨e, written, -, -, -, noReturn⟩ |
    ⟨written, small⟩ | ⟨written, -, noReturn, -⟩
  · simpa [written] using Ne.symm noReturn
  · obtain ⟨-, -, noReturn⟩ := fourDigits_below c.toNat small
    simpa [written] using noReturn
  · simpa [written] using Ne.symm noReturn

theorem quotedFrom_escapedQuote :
    quotedFrom multi .plain ('\\' :: '"' :: rest) = prepend '"' (quotedFrom multi .plain rest) :=
  quotedFrom_shortEscape rfl (by decide)

theorem quotedFrom_single (run : Nat) :
    quotedFrom false .plain (escapedFrom false 0 run chars ++ '"' :: rest) =
      some (chars, rest) := by
  induction chars generalizing run with
  | nil => rfl
  | cons c chars ih =>
      by_cases quote : c = '"'
      · subst quote
        rw [escapedFrom, if_pos rfl, if_neg (Nat.not_lt_zero run), List.cons_append,
          List.cons_append, quotedFrom_escapedQuote, ih, prepend_some]
      · rw [escapedFrom, if_neg quote, List.append_assoc, quotedFrom_escaped quote, ih,
          prepend_some]

/-- A quote behind which there are less than two does not close. -/
theorem quotedFrom_quote (few : ∀ behind, chars ≠ '"' :: '"' :: behind) :
    quotedFrom true .plain ('"' :: chars) = prepend '"' (quotedFrom true .plain chars) := by
  rw [quotedFrom.eq_def]
  simp [few]

/-- Up to two quotes may stand before the ones that close. -/
theorem quotedFrom_closing (behind : rest.head? ≠ some '"') :
    quotedFrom true .plain ('"' :: '"' :: '"' :: rest) = some ([], rest) ∧
    quotedFrom true .plain ('"' :: '"' :: '"' :: '"' :: rest) = some (['"'], rest) ∧
    quotedFrom true .plain ('"' :: '"' :: '"' :: '"' :: '"' :: rest) =
      some (['"', '"'], rest) := by
  cases rest with
  | nil => exact ⟨rfl, rfl, rfl⟩
  | cons d rest =>
      have other : d ≠ '"' := by simpa using behind
      refine ⟨?_, ?_, rfl⟩ <;> rw [quotedFrom.eq_def] <;> simp [other]

theorem escapedFrom_eq_cons (multi : Bool) (chars : List Char) {allowed run : Nat}
    (escapes : c = '"' → allowed ≤ run) :
    ∃ first others, escapedFrom multi allowed run (c :: chars) = first :: others ∧
      first ≠ '"' ∧ (first = '\n' → c = '\n') := by
  by_cases quote : c = '"'
  · subst quote
    rw [escapedFrom, if_pos rfl, if_neg (Nat.not_lt.mpr (escapes rfl))]
    exact ⟨_, _, rfl, by decide, nofun⟩
  · obtain ⟨first, others, written, notQuote, notBreak⟩ := escaped_eq_cons multi quote
    rw [escapedFrom, if_neg quote, written]
    exact ⟨_, _, rfl, notQuote, notBreak⟩

/-- Behind a quote that stays as it is there are not two others, unless the second of
them closes. -/
theorem not_two_quotes (rest : List Char) {run : Nat}
    (notLast : ¬(d = '"' ∧ run + 1 < 2 ∧ chars = [])) :
    ∀ behind, escapedFrom true 2 (run + 1) (d :: chars) ++ '"' :: '"' :: '"' :: rest ≠
      '"' :: '"' :: behind := by
  intro behind same
  by_cases raw : d = '"' ∧ run + 1 < 2
  · obtain ⟨rfl, raw⟩ := raw
    rw [escapedFrom, if_pos rfl, if_pos raw] at same
    cases chars with
    | nil => exact notLast ⟨rfl, raw, rfl⟩
    | cons e chars =>
        have escapes : e = '"' → 2 ≤ run + 1 + 1 := fun _ => by omega
        obtain ⟨first, others, written, notQuote, -⟩ := escapedFrom_eq_cons true chars escapes
        rw [written] at same
        exact notQuote (List.cons.inj (List.cons.inj same).2).1
  · have escapes : d = '"' → 2 ≤ run + 1 := fun quote =>
      Nat.not_lt.mp fun few => raw ⟨quote, few⟩
    obtain ⟨first, others, written, notQuote, -⟩ := escapedFrom_eq_cons true chars escapes
    rw [written] at same
    exact notQuote (List.cons.inj same).1

theorem quotedFrom_multi (run : Nat) (behind : rest.head? ≠ some '"') :
    quotedFrom true .plain (escapedFrom true 2 run chars ++ '"' :: '"' :: '"' :: rest) =
      some (chars, rest) := by
  obtain ⟨closing, closingOne, closingTwo⟩ := quotedFrom_closing behind
  induction chars generalizing run with
  | nil => exact closing
  | cons c chars ih =>
      by_cases quote : c = '"'
      · subst quote
        by_cases raw : run < 2
        · have tail := ih (run + 1)
          rw [escapedFrom, if_pos rfl, if_pos raw]
          cases chars with
          | nil => exact closingOne
          | cons d chars =>
              by_cases last : d = '"' ∧ run + 1 < 2 ∧ chars = []
              · obtain ⟨rfl, rawLast, rfl⟩ := last
                rw [escapedFrom, if_pos rfl, if_pos rawLast]
                exact closingTwo
              · have few := not_two_quotes rest last
                rw [List.cons_append, quotedFrom_quote few, tail, prepend_some]
        · rw [escapedFrom, if_pos rfl, if_neg raw, List.cons_append, List.cons_append,
            quotedFrom_escapedQuote, ih, prepend_some]
      · rw [escapedFrom, if_neg quote, List.append_assoc, quotedFrom_escaped quote, ih,
          prepend_some]

end Quoted

section Suiting

/-- What a text needs in order to be written between apostrophes, where there are no
escapes. -/
def Quotes.Suits : Quotes → List Char → Prop
  | .basic, _ | .multiBasic, _ => True
  | .literal, chars =>
      (∀ c ∈ chars, isControl c = false) ∧ longestRun '\'' 0 chars = 0 ∧ '\n' ∉ chars
  | .multiLiteral, chars =>
      (∀ c ∈ chars, isControl c = false) ∧ longestRun '\'' 0 chars ≤ 2

theorem suits_suiting (chars : List Char) : (Quotes.suiting chars).Suits chars := by
  unfold Quotes.suiting
  dsimp only
  split_ifs with basic literal multiBasic multiLiteral breaks
  · trivial
  · simpa [Quotes.Suits, and_assoc] using literal
  · trivial
  · simpa [Quotes.Suits] using multiLiteral
  · trivial
  · trivial

/-- The line break in front of a text of several lines is the only one that does not
count. -/
theorem dropBreak_start (opened : ∀ behind, rest = '\n' :: behind → '\n' ∈ chars) :
    dropBreak ((if chars.contains '\n' then ['\n'] else []) ++ rest) = rest := by
  split_ifs with breaks
  · rfl
  · rw [List.nil_append]
    unfold dropBreak
    split
    · exact absurd (opened _ rfl) (by simpa using breaks)
    · rfl

end Suiting

section Kinds

theorem text?_basic (noQuote : rest.head? ≠ some '"') :
    text? (quotedAs .basic chars ++ rest) = some (chars, rest) := by
  have written : quotedAs .basic chars ++ rest =
      '"' :: (escapedFrom false 0 0 chars ++ '"' :: rest) := by simp [quotedAs]
  have single : ∀ behind,
      escapedFrom false 0 0 chars ++ '"' :: rest ≠ '"' :: '"' :: behind := by
    intro behind same
    cases chars with
    | nil => simp_all [escapedFrom]
    | cons c chars =>
        have escapes : c = '"' → 0 ≤ 0 := fun _ => Nat.zero_le 0
        obtain ⟨first, others, begins, notQuote, -⟩ := escapedFrom_eq_cons false chars escapes
        rw [begins] at same
        exact notQuote (List.cons.inj same).1
  rw [written, text?.eq_def]
  simp [single, lineText?, quotedFrom_single]

theorem text?_literal (suits : Quotes.literal.Suits chars) (noApostrophe : rest.head? ≠ some '\'') :
    text? (quotedAs .literal chars ++ rest) = some (chars, rest) := by
  obtain ⟨noControl, noRun, noBreak⟩ := suits
  have noneInside : ∀ c ∈ chars, c ≠ '\'' := ne_of_longestRun_eq_zero noRun
  have allowed : ∀ c ∈ chars, c ≠ '\'' ∧ isTextChar c = true := by
    intro c member
    have notBreak : c ≠ '\n' := fun same => noBreak (same ▸ member)
    exact ⟨noneInside c member, isTextChar_of_not_isControl (noControl c member) notBreak⟩
  have written : quotedAs .literal chars ++ rest = '\'' :: (chars ++ '\'' :: rest) := by
    simp [quotedAs]
  have single : ∀ behind, chars ++ '\'' :: rest ≠ '\'' :: '\'' :: behind := by
    intro behind same
    cases chars with
    | nil => simp_all
    | cons c chars => exact noneInside c (by simp) (List.cons.inj same).1
  rw [written, text?.eq_def]
  simp [single, lineText?, literalFrom_single allowed]

theorem text?_multiBasic (noQuote : rest.head? ≠ some '"') :
    text? (quotedAs .multiBasic chars ++ rest) = some (chars, rest) := by
  have written : quotedAs .multiBasic chars ++ rest = '"' :: '"' :: '"' ::
      ((if chars.contains '\n' then ['\n'] else []) ++
        (escapedFrom true 2 0 chars ++ '"' :: '"' :: '"' :: rest)) := by simp [quotedAs]
  have opened : ∀ behind, escapedFrom true 2 0 chars ++ '"' :: '"' :: '"' :: rest =
      '\n' :: behind → '\n' ∈ chars := by
    intro behind begins
    cases chars with
    | nil => exact absurd (List.cons.inj begins).1 (by decide)
    | cons c chars =>
        by_cases quote : c = '"'
        · subst quote
          exact absurd (List.cons.inj begins).1 (by decide)
        · have escapes : c = '"' → 2 ≤ 0 := fun same => absurd same quote
          obtain ⟨first, others, starts, -, isBreak⟩ := escapedFrom_eq_cons true chars escapes
          rw [starts] at begins
          exact isBreak (List.cons.inj begins).1 ▸ List.mem_cons_self
  rw [written, text?, dropBreak_start opened, quotedFrom_multi 0 noQuote]

theorem text?_multiLiteral (suits : Quotes.multiLiteral.Suits chars)
    (noApostrophe : rest.head? ≠ some '\'') :
    text? (quotedAs .multiLiteral chars ++ rest) = some (chars, rest) := by
  obtain ⟨noControl, short⟩ := suits
  have allowed : ∀ c ∈ chars, isTextChar c = true ∨ c = '\n' := by
    intro c member
    by_cases isBreak : c = '\n'
    · exact .inr isBreak
    · exact .inl (isTextChar_of_not_isControl (noControl c member) isBreak)
  have written : quotedAs .multiLiteral chars ++ rest = '\'' :: '\'' :: '\'' ::
      ((if chars.contains '\n' then ['\n'] else []) ++
        (chars ++ '\'' :: '\'' :: '\'' :: rest)) := by simp [quotedAs]
  have opened : ∀ behind, chars ++ '\'' :: '\'' :: '\'' :: rest = '\n' :: behind →
      '\n' ∈ chars := by
    intro behind begins
    cases chars with
    | nil => exact absurd (List.cons.inj begins).1 (by decide)
    | cons c chars => exact (List.cons.inj begins).1 ▸ List.mem_cons_self
  rw [written, text?, dropBreak_start opened, literalFrom_multi short allowed noApostrophe]

end Kinds

/-- What is written of a text is read as the text. -/
theorem text?_writtenText (s : String) (noQuote : rest.head? ≠ some '"')
    (noApostrophe : rest.head? ≠ some '\'') :
    text? ((writtenText s).toList ++ rest) = some (s.toList, rest) := by
  have suits := suits_suiting s.toList
  rw [writtenText, String.toList_ofList]
  cases quotes : Quotes.suiting s.toList with
  | basic => exact text?_basic noQuote
  | literal => exact text?_literal (quotes ▸ suits) noApostrophe
  | multiBasic => exact text?_multiBasic noQuote
  | multiLiteral => exact text?_multiLiteral (quotes ▸ suits) noApostrophe

section Returns

theorem return_notMem_escapedFrom (multi : Bool) (allowed run : Nat) (chars : List Char) :
    '\r' ∉ escapedFrom multi allowed run chars := by
  induction chars generalizing run with
  | nil => simp [escapedFrom]
  | cons c chars ih =>
      unfold escapedFrom
      split_ifs
      · simpa using ih _
      · simpa using ih _
      · simpa using ⟨return_notMem_escaped multi c, ih _⟩

theorem ne_return_of_not_isControl (plain : ∀ c ∈ chars, isControl c = false) : '\r' ∉ chars :=
  fun member => absurd (plain _ member) (by decide)

/-- Nothing that is written holds the character that may begin a line break. -/
theorem return_notMem_writtenText (s : String) : '\r' ∉ (writtenText s).toList := by
  have suits := suits_suiting s.toList
  rw [writtenText, String.toList_ofList]
  cases quotes : Quotes.suiting s.toList with
  | basic => simpa [quotedAs] using return_notMem_escapedFrom false 0 0 s.toList
  | literal =>
      rw [quotes] at suits
      simpa [quotedAs] using ne_return_of_not_isControl suits.1
  | multiBasic =>
      simpa [quotedAs] using return_notMem_escapedFrom true 2 0 s.toList
  | multiLiteral =>
      rw [quotes] at suits
      simpa [quotedAs] using ne_return_of_not_isControl suits.1

end Returns

end ApiReview.Toml
