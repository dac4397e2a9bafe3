import ApiReview.Proofs.Document.Pointers
import ApiReview.Proofs.Text.Cut
import ApiReview.Proofs.Text.Replaced

/-!
# Segments of pointers

The segment of a key is written by two replacements, first of the tildes and then of the
slashes, and read back by the two opposite ones in the opposite order.  What the first
replacement puts in holds nothing that the second one looks for, so both ways can be gone
character by character.  A segment holds no slash: it is one piece of every pointer it stands
in, and it is the segment of one key only.
-/

namespace ApiReview.Pointer

open Text (replaceList cutAt)

section Characters

variable {chars rest : List Char} {c : Char}

/-- A text that can stand between two slashes of a pointer: it holds no slash of its own, and
each of its tildes opens an escape. -/
structure Segment (text : List Char) : Prop where
  noSlash : '/' ∉ text
  opens : ∀ front rest, text = front ++ '~' :: rest → rest.head? = some '0' ∨ rest.head? = some '1'

theorem segment_nil : Segment [] where
  noSlash := List.not_mem_nil
  opens := by simp

theorem segment_cons : Segment (c :: rest) ↔
    (c ≠ '/' ∧ (c = '~' → rest.head? = some '0' ∨ rest.head? = some '1')) ∧ Segment rest := by
  constructor
  · intro segment
    refine ⟨⟨?_, ?_⟩, ?_, ?_⟩
    · rintro rfl
      exact segment.noSlash List.mem_cons_self
    · rintro rfl
      exact segment.opens [] rest rfl
    · exact fun slash => segment.noSlash (List.mem_cons_of_mem c slash)
    · rintro front behind rfl
      exact segment.opens (c :: front) behind rfl
  · rintro ⟨⟨notSlash, opened⟩, segment⟩
    refine ⟨?_, ?_⟩
    · exact List.not_mem_cons_of_ne_of_not_mem (Ne.symm notSlash) segment.noSlash
    · intro front behind parts
      cases front with
      | nil =>
          obtain ⟨tilde, rfl⟩ := List.cons.inj parts
          exact opened tilde
      | cons first front => exact segment.opens front behind (List.cons.inj parts).2

theorem segment_flatMap_escapeChar (chars : List Char) : Segment (chars.flatMap escapeChar) := by
  induction chars with
  | nil => exact segment_nil
  | cons c rest ih =>
      rw [List.flatMap_cons]
      by_cases tilde : c = '~'
      · simp [tilde, escapeChar, segment_cons, ih]
      · by_cases slash : c = '/'
        · simp [slash, escapeChar, segment_cons, ih]
        · simp [escapeChar_of_plain tilde slash, segment_cons, tilde, slash, ih]

theorem pair_isPrefix_cons {first second : Char} :
    [first, second] <+: c :: rest ↔ c = first ∧ rest.head? = some second := by
  cases rest with
  | nil => simp
  | cons next rest => simp [eq_comm]

theorem escape_unescapeList (segment : Segment chars) :
    (unescapeList chars).flatMap escapeChar = chars := by
  fun_induction unescapeList chars with
  | case1 rest ih | case2 rest ih =>
      obtain ⟨-, segment⟩ := segment_cons.mp segment
      rw [List.flatMap_cons, ih (segment_cons.mp segment).2]
      rfl
  | case3 c rest notTilde notSlash ih =>
      obtain ⟨⟨slash, opened⟩, segment⟩ := segment_cons.mp segment
      have tilde : c ≠ '~' := by
        intro tilde
        rcases opened tilde with opens | opens
        · exact notTilde _ tilde (List.eq_cons_of_mem_head? opens)
        · exact notSlash _ tilde (List.eq_cons_of_mem_head? opens)
      rw [List.flatMap_cons, ih segment, escapeChar_of_plain tilde slash, List.singleton_append]
  | case4 => rfl

theorem head?_replaceList_slash (found : (replaceList ['~', '1'] ['/'] chars).head? = some '0') :
    chars.head? = some '0' := by
  cases chars with
  | nil => simp [replaceList] at found
  | cons c rest =>
      by_cases opens : ['~', '1'] <+: c :: rest
      · rw [replaceList, if_pos opens] at found
        simp at found
      · rw [Text.replaceList_cons opens] at found
        exact found

theorem unescapeList_eq_replaceList (chars : List Char) :
    unescapeList chars = replaceList ['~', '0'] ['~'] (replaceList ['~', '1'] ['/'] chars) := by
  fun_induction unescapeList chars with
  | case1 rest ih =>
      have first : replaceList ['~', '1'] ['/'] ('~' :: '0' :: rest) =
          ['~', '0'] ++ replaceList ['~', '1'] ['/'] rest := by
        rw [Text.replaceList_cons (by simp), Text.replaceList_cons (by simp)]
        rfl
      rw [first, Text.replaceList_append (by simp), ih, List.singleton_append]
  | case2 rest ih =>
      have first : replaceList ['~', '1'] ['/'] ('~' :: '1' :: rest) =
          '/' :: replaceList ['~', '1'] ['/'] rest :=
        Text.replaceList_append (by simp)
      rw [first, Text.replaceList_cons (by simp), ih]
  | case3 c rest notTilde notSlash ih =>
      have first : ¬['~', '1'] <+: c :: rest := by
        rw [pair_isPrefix_cons]
        rintro ⟨tilde, opens⟩
        exact notSlash _ tilde (List.eq_cons_of_mem_head? opens)
      -- The first replacement puts in slashes only, so it opens no escape of a tilde.
      have second : ¬['~', '0'] <+: c :: replaceList ['~', '1'] ['/'] rest := by
        rw [pair_isPrefix_cons]
        rintro ⟨tilde, opens⟩
        exact notTilde _ tilde (List.eq_cons_of_mem_head? (head?_replaceList_slash opens))
      rw [Text.replaceList_cons first, Text.replaceList_cons second, ih]
  | case4 => simp [replaceList]

end Characters

variable {key name : String}

theorem segment_escape (key : String) : Segment (escape key).toList :=
  toList_escape ▸ segment_flatMap_escapeChar key.toList

/-- The segments are the texts that are written again when they have been read. -/
theorem escape_unescape_iff {text : String} :
    escape (unescape text) = text ↔ Segment text.toList := by
  constructor
  · intro same
    exact same ▸ segment_escape (unescape text)
  · intro segment
    rw [escape, unescape, String.toList_ofList, escape_unescapeList segment, String.ofList_toList]

theorem escape_append (front back : String) :
    escape (front ++ back) = escape front ++ escape back := by
  simp [escape]

theorem escape_injective : Function.Injective escape :=
  Function.LeftInverse.injective unescape_escape

/-- Escapes are written by replacing the tildes and then the slashes. -/
theorem escape_eq_replace (key : String) :
    escape key = (key.replace '~' "~0").replace '/' "~1" := by
  apply String.toList_injective
  rw [toList_escape, Text.toList_replace_char, Text.toList_replace_char, List.flatMap_assoc]
  apply List.flatMap_congr
  intro c _
  by_cases tilde : c = '~' <;> simp [tilde, escapeChar]

/-- Escapes are undone by replacing those of the slashes and then those of the tildes. -/
theorem unescape_eq_replace (text : String) :
    unescape text = (text.replace "~1" "/").replace "~0" "~" := by
  apply String.toList_injective
  rw [Text.toList_replace_string (by decide), Text.toList_replace_string (by decide), unescape,
    String.toList_ofList, unescapeList_eq_replaceList]
  rfl

theorem cutAt_child (owner key : String) :
    cutAt '/' (child owner key) = cutAt '/' owner ++ [escape key] := by
  rw [← Text.cutAt_of_notMem slash_notMem_escape]
  exact Text.cutAt_append owner '/' (escape key)

theorem child_inj {owner other : String} :
    child owner key = child other name ↔ owner = other ∧ key = name := by
  constructor
  · intro same
    have pieces := congrArg (cutAt '/') same
    rw [cutAt_child, cutAt_child] at pieces
    obtain ⟨owners, segments⟩ := List.append_inj' pieces rfl
    exact ⟨Text.cutAt_injective '/' owners, escape_injective (List.singleton_inj.mp segments)⟩
  · rintro ⟨rfl, rfl⟩
    rfl

/-- A segment is written by replacing the tildes and then the slashes of a key, and read back
by the opposite replacements in the opposite order.  Different keys have different segments,
and the segments of the parts of a key make up the segment of the whole.  The segments are the
texts without a slash in which each tilde opens an escape.  So a segment is one piece of every
pointer it stands in, and the pointer to a child tells its owner and its key. -/
theorem keys_in_segments (key name owner other text : String) :
    escape key = (key.replace '~' "~0").replace '/' "~1" ∧
    ((escape key).replace "~1" "/").replace "~0" "~" = key ∧
    (escape key = escape name ↔ key = name) ∧
    escape (key ++ name) = escape key ++ escape name ∧
    Segment (escape key).toList ∧
    (escape (unescape text) = text ↔ Segment text.toList) ∧
    cutAt '/' (child owner key) = cutAt '/' owner ++ [escape key] ∧
    cutAt '/' (child owner key ++ "/" ++ text) = cutAt '/' owner ++ escape key :: cutAt '/' text ∧
    (child owner key = child other name ↔ owner = other ∧ key = name) := by
  refine ⟨escape_eq_replace key, ?_, escape_injective.eq_iff, escape_append key name,
    segment_escape key, escape_unescape_iff, cutAt_child owner key, ?_, child_inj⟩
  · rw [← unescape_eq_replace, unescape_escape]
  · have cut := Text.cutAt_append (child owner key) '/' text
    rw [cutAt_child, List.append_assoc] at cut
    exact cut

/-- A key that looks like escapes already. -/
example : escape "~1/~01" = "~01~1~001" ∧ unescape "~01~1~001" = "~1/~01" := by
  decide

end ApiReview.Pointer
