import ApiReview.Checks.Names
import Mathlib.Data.List.Basic

/-!
# Placeholders of a template

A placeholder is a name between two braces: it is not empty, and neither a brace nor a
slash stands in it.  The placeholders of a template are listed in the order of their closing
braces, one for each closing brace at which a placeholder ends.
-/

namespace ApiReview

/-- A name that can stand between braces: it is not empty and holds neither a brace nor a
slash. -/
structure PlaceholderName (name : List Char) : Prop where
  filled : name ≠ []
  inside : ∀ c ∈ name, inPlaceholder c = true

/-- A placeholder of this name ends at the closing brace behind the first `stop` characters. -/
def PlaceholderEnds (text : List Char) (stop : Nat) (name : List Char) : Prop :=
  PlaceholderName name ∧ ∃ before behind,
    text = before ++ '\x7b' :: (name ++ '\x7d' :: behind) ∧
      stop = before.length + 1 + name.length

section Scanning

variable {current : Option (List Char)} {text rest name opened : List Char} {stop : Nat} {c : Char}

/-- A placeholder that was opened in front of a text ends in it.  The characters from the
opening brace up to the text are given in reverse. -/
def PlaceholderCloses (opened text : List Char) (stop : Nat) (name : List Char) : Prop :=
  PlaceholderName name ∧ ∃ tail behind, name = opened.reverse ++ tail ∧
    text = tail ++ '\x7d' :: behind ∧ stop = tail.length

/-- A placeholder ends in a text; it may have been opened in front of it. -/
def EndsIn (current : Option (List Char)) (text : List Char) (stop : Nat) (name : List Char) :
    Prop :=
  PlaceholderEnds text stop name ∨
    ∃ opened, current = some opened ∧ PlaceholderCloses opened text stop name

/-- The characters since the last opening brace, after one more character. -/
def openedBehind (current : Option (List Char)) (c : Char) : Option (List Char) :=
  if c = '\x7b' then some [] else if inPlaceholder c then current.map (c :: ·) else none

/-- The placeholder that ends at a character. -/
def closedAt (current : Option (List Char)) (c : Char) : Option (List Char) :=
  if c = '\x7d' then (current.filter (!·.isEmpty)).map List.reverse else none

theorem placeholdersFrom_cons :
    placeholdersFrom current (c :: rest) =
      ((closedAt current c).map String.ofList).toList ++
        placeholdersFrom (openedBehind current c) rest := by
  by_cases opens : c = '\x7b'
  · simp [placeholdersFrom, opens, closedAt, openedBehind]
  · by_cases closes : c = '\x7d'
    · subst closes
      rcases current with _ | _ | ⟨last, opened⟩ <;>
        simp [placeholdersFrom, closedAt, openedBehind, inPlaceholder, Option.filter]
    · by_cases slash : c = '/'
      · simp [placeholdersFrom, slash, closedAt, openedBehind, inPlaceholder]
      · simp [placeholdersFrom, opens, closes, slash, closedAt, openedBehind, inPlaceholder]

theorem placeholderEnds_zero : ¬PlaceholderEnds text 0 name := by
  rintro ⟨-, before, behind, -, stop⟩
  omega

theorem placeholderEnds_succ : PlaceholderEnds (c :: rest) (stop + 1) name ↔
    PlaceholderEnds rest stop name ∨ c = '\x7b' ∧ PlaceholderCloses [] rest stop name := by
  constructor
  · rintro ⟨valid, before, behind, equal, place⟩
    cases before with
    | nil =>
        obtain ⟨rfl, rfl⟩ := List.cons.inj equal
        refine .inr ⟨rfl, valid, name, behind, rfl, rfl, ?_⟩
        rw [List.length_nil] at place
        omega
    | cons first before =>
        obtain ⟨rfl, rfl⟩ := List.cons.inj equal
        refine .inl ⟨valid, before, behind, rfl, ?_⟩
        rw [List.length_cons] at place
        omega
  · rintro (⟨valid, before, behind, rfl, rfl⟩ | ⟨rfl, valid, tail, behind, rfl, rfl, rfl⟩)
    · refine ⟨valid, c :: before, behind, rfl, ?_⟩
      rw [List.length_cons]
      omega
    · refine ⟨valid, [], behind, rfl, ?_⟩
      simp
      omega

theorem placeholderCloses_zero : PlaceholderCloses opened (c :: rest) 0 name ↔
    PlaceholderName name ∧ c = '\x7d' ∧ name = opened.reverse := by
  constructor
  · rintro ⟨valid, tail, behind, rfl, equal, place⟩
    obtain rfl := List.length_eq_zero_iff.mp place.symm
    exact ⟨valid, (List.cons.inj equal).1, List.append_nil _⟩
  · rintro ⟨valid, rfl, rfl⟩
    exact ⟨valid, [], rest, (List.append_nil _).symm, rfl, rfl⟩

theorem placeholderCloses_succ : PlaceholderCloses opened (c :: rest) (stop + 1) name ↔
    inPlaceholder c = true ∧ PlaceholderCloses (c :: opened) rest stop name := by
  constructor
  · rintro ⟨valid, tail, behind, rfl, equal, place⟩
    cases tail with
    | nil => simp at place
    | cons first tail =>
        obtain ⟨rfl, rfl⟩ := List.cons.inj equal
        refine ⟨valid.inside c (by simp), valid, tail, behind, by simp, rfl, ?_⟩
        exact Nat.succ.inj place
  · rintro ⟨-, valid, tail, behind, rfl, rfl, rfl⟩
    exact ⟨valid, c :: tail, behind, by simp, rfl, rfl⟩

theorem endsIn_zero : EndsIn current (c :: rest) 0 name ↔
    PlaceholderName name ∧ c = '\x7d' ∧ current = some name.reverse := by
  unfold EndsIn
  simp only [placeholderEnds_zero, placeholderCloses_zero, false_or]
  constructor
  · rintro ⟨opened, rfl, valid, rfl, rfl⟩
    exact ⟨valid, rfl, by rw [List.reverse_reverse]⟩
  · rintro ⟨valid, rfl, rfl⟩
    exact ⟨name.reverse, rfl, valid, rfl, by rw [List.reverse_reverse]⟩

theorem endsIn_succ : EndsIn current (c :: rest) (stop + 1) name ↔
    EndsIn (openedBehind current c) rest stop name := by
  unfold EndsIn openedBehind
  simp only [placeholderEnds_succ, placeholderCloses_succ]
  by_cases opens : c = '\x7b'
  · subst opens
    simp [inPlaceholder]
  · by_cases inside : inPlaceholder c = true
    · simp [opens, inside]
    · simp [opens, inside]

/-- The characters since the last opening brace can all stand in a placeholder. -/
def ValidSoFar (current : Option (List Char)) : Prop :=
  ∀ opened, current = some opened → ∀ c ∈ opened, inPlaceholder c = true

theorem ValidSoFar.openedBehind (valid : ValidSoFar current) (c : Char) :
    ValidSoFar (openedBehind current c) := by
  intro opened found
  unfold ApiReview.openedBehind at found
  split_ifs at found with opens inside
  · obtain rfl := Option.some.inj found
    simp
  · obtain ⟨before, here, rfl⟩ := Option.map_eq_some_iff.mp found
    exact List.forall_mem_cons.mpr ⟨inside, valid before here⟩

theorem closedAt_eq_some_iff (valid : ValidSoFar current) :
    closedAt current c = some name ↔ EndsIn current (c :: rest) 0 name := by
  rw [endsIn_zero]
  unfold closedAt
  by_cases closes : c = '\x7d'
  · rw [if_pos closes, Option.map_eq_some_iff]
    constructor
    · rintro ⟨opened, kept, rfl⟩
      obtain ⟨here, filled⟩ := Option.filter_eq_some_iff.mp kept
      refine ⟨⟨by simpa using filled, ?_⟩, closes, by rw [here, List.reverse_reverse]⟩
      intro c member
      exact valid opened here c (List.mem_reverse.mp member)
    · rintro ⟨⟨filled, -⟩, -, here⟩
      refine ⟨name.reverse, Option.filter_eq_some_iff.mpr ⟨here, ?_⟩, List.reverse_reverse name⟩
      simpa using filled
  · simp [closes]

/-- The scan lists the placeholders that end in the rest of the text, each with the place of
its closing brace. -/
theorem exists_places_placeholdersFrom (text : List Char) (valid : ValidSoFar current) :
    ∃ places : List (Nat × List Char),
      places.map (fun place => String.ofList place.2) = placeholdersFrom current text ∧
      places.Pairwise (·.1 < ·.1) ∧
      ∀ stop name, (stop, name) ∈ places ↔ EndsIn current text stop name := by
  induction text generalizing current with
  | nil =>
      refine ⟨[], rfl, List.Pairwise.nil, fun stop name => ?_⟩
      simp [EndsIn, PlaceholderEnds, PlaceholderCloses]
  | cons c rest ih =>
      obtain ⟨places, names, ascending, complete⟩ := ih (valid.openedBehind c)
      refine ⟨(closedAt current c).toList.map (0, ·) ++
        places.map fun place => (place.1 + 1, place.2), ?_, ?_, ?_⟩
      · rw [placeholdersFrom_cons, ← names, List.map_append, List.map_map, List.map_map]
        cases closedAt current c <;> rfl
      · rw [List.pairwise_append]
        refine ⟨by cases closedAt current c <;> simp, ?_, ?_⟩
        · exact List.pairwise_map.mpr (ascending.imp fun less => Nat.succ_lt_succ less)
        · intro first inFirst later inLater
          obtain ⟨name, -, rfl⟩ := List.mem_map.mp inFirst
          obtain ⟨place, -, rfl⟩ := List.mem_map.mp inLater
          exact Nat.succ_pos place.1
      · intro stop name
        rw [List.mem_append]
        cases stop with
        | zero =>
            rw [← closedAt_eq_some_iff valid]
            simp
        | succ stop =>
            rw [endsIn_succ, ← complete]
            simp

end Scanning

/-- The placeholders of a template in the order of their closing braces. -/
theorem exists_places_placeholders (template : String) :
    ∃ places : List (Nat × List Char),
      places.map (fun place => String.ofList place.2) = placeholders template ∧
      places.Pairwise (·.1 < ·.1) ∧
      ∀ stop name, (stop, name) ∈ places ↔ PlaceholderEnds template.toList stop name := by
  obtain ⟨places, names, ascending, complete⟩ :=
    exists_places_placeholdersFrom template.toList (nofun : ValidSoFar none)
  refine ⟨places, names, ascending, fun stop name => ?_⟩
  rw [complete, EndsIn]
  simp

/-- A name stands between braces in a template. -/
def IsPlaceholder (template name : String) : Prop :=
  PlaceholderName name.toList ∧ ∃ before behind,
    template.toList = before ++ '\x7b' :: (name.toList ++ '\x7d' :: behind)

theorem mem_placeholders {template name : String} :
    name ∈ placeholders template ↔ IsPlaceholder template name := by
  obtain ⟨places, names, -, complete⟩ := exists_places_placeholders template
  rw [← names, List.mem_map]
  constructor
  · rintro ⟨⟨stop, chars⟩, member, rfl⟩
    obtain ⟨valid, before, behind, text, -⟩ := (complete stop chars).mp member
    rw [IsPlaceholder, String.toList_ofList]
    exact ⟨valid, before, behind, text⟩
  · rintro ⟨valid, before, behind, text⟩
    refine ⟨(_, name.toList), (complete _ _).mpr ⟨valid, before, behind, text, rfl⟩, ?_⟩
    exact String.ofList_toList

section Spans

variable {text name : List Char} {opening closing : Nat}

/-- A placeholder stands between the braces at two places of a text. -/
structure PlaceholderBetween (text : List Char) (opening closing : Nat) : Prop where
  opens : text[opening]? = some '\x7b'
  closes : text[closing]? = some '\x7d'
  filled : opening + 1 < closing
  inside : ∀ place c, opening < place → place < closing → text[place]? = some c →
    c ≠ '\x7b' ∧ c ≠ '\x7d' ∧ c ≠ '/'

/-- The characters behind one place and before another one. -/
def charsBetween (text : List Char) (opening closing : Nat) : List Char :=
  (text.take closing).drop (opening + 1)

theorem inPlaceholder_iff {c : Char} :
    inPlaceholder c = true ↔ c ≠ '\x7b' ∧ c ≠ '\x7d' ∧ c ≠ '/' := by
  simp [inPlaceholder, and_assoc]

theorem PlaceholderBetween.ends (between : PlaceholderBetween text opening closing) :
    PlaceholderEnds text closing (charsBetween text opening closing) := by
  obtain ⟨opens, closes, filled, inside⟩ := between
  obtain ⟨openingInside, atOpening⟩ := List.getElem?_eq_some_iff.mp opens
  obtain ⟨closingInside, atClosing⟩ := List.getElem?_eq_some_iff.mp closes
  have length : (charsBetween text opening closing).length = closing - (opening + 1) := by
    simp [charsBetween]
    omega
  refine ⟨⟨?_, ?_⟩, text.take opening, text.drop (closing + 1), ?_, ?_⟩
  · apply List.ne_nil_of_length_pos
    omega
  · intro c member
    obtain ⟨place, found⟩ := List.mem_iff_getElem?.mp member
    rw [charsBetween, List.getElem?_drop, List.getElem?_take] at found
    split at found
    · exact inPlaceholder_iff.mpr (inside _ c (by omega) ‹_› found)
    · cases found
  · have behindOpening : text.drop opening = '\x7b' :: text.drop (opening + 1) := by
      rw [List.drop_eq_getElem_cons openingInside, atOpening]
    have behindClosing : text.drop closing = '\x7d' :: text.drop (closing + 1) := by
      rw [List.drop_eq_getElem_cons closingInside, atClosing]
    have upToClosing : text.drop (opening + 1) =
        charsBetween text opening closing ++ text.drop closing := by
      have short : opening + 1 ≤ (text.take closing).length := by
        rw [List.length_take]
        omega
      rw [charsBetween, ← List.drop_append_of_le_length short, List.take_append_drop]
    calc
      text = text.take opening ++ text.drop opening := (List.take_append_drop opening text).symm
      _ = _ := by rw [behindOpening, upToClosing, behindClosing]
  · rw [length, List.length_take]
    omega

theorem PlaceholderEnds.between (ends : PlaceholderEnds text closing name) :
    ∃ opening, opening + 1 + name.length = closing ∧
      PlaceholderBetween text opening closing ∧ charsBetween text opening closing = name := by
  obtain ⟨valid, before, behind, split, rfl⟩ := ends
  have front : (before ++ '\x7b' :: name).length = before.length + 1 + name.length := by
    simp
    omega
  have upToClosing : text = (before ++ '\x7b' :: name) ++ '\x7d' :: behind := by simp [split]
  refine ⟨before.length, rfl, ⟨by simp [split], ?_, ?_, ?_⟩, ?_⟩
  · rw [upToClosing, ← front]
    simp
  · have := List.length_pos_iff.mpr valid.filled
    omega
  · intro place c after ahead found
    obtain ⟨index, rfl⟩ := Nat.exists_eq_add_of_lt after
    have inName : name[index]? = some c := by
      rw [split, Nat.add_assoc, List.getElem?_append_right (by omega), Nat.add_sub_cancel_left,
        List.getElem?_cons_succ, List.getElem?_append_left (by omega)] at found
      exact found
    exact inPlaceholder_iff.mp (valid.inside c (List.mem_of_getElem? inName))
  · rw [charsBetween, upToClosing, ← front, List.take_left]
    simp [List.drop_append]

/-- The placeholders of a template are what stands between an opening and a closing brace with
no other brace and no slash in between.  Each of these places is listed once, in their order. -/
theorem placeholders_between_braces (template : String) :
    ∃ spans : List (Nat × Nat),
      placeholders template =
        spans.map (fun span => String.ofList (charsBetween template.toList span.1 span.2)) ∧
      spans.Pairwise (fun first later => first.2 < later.1) ∧
      ∀ opening closing, (opening, closing) ∈ spans ↔
        PlaceholderBetween template.toList opening closing := by
  obtain ⟨places, names, ascending, complete⟩ := exists_places_placeholders template
  let span (place : Nat × List Char) : Nat × Nat := (place.1 - (1 + place.2.length), place.1)
  have spanned : ∀ place ∈ places,
      PlaceholderBetween template.toList (span place).1 place.1 ∧
        charsBetween template.toList (span place).1 place.1 = place.2 := by
    rintro ⟨stop, name⟩ member
    obtain ⟨opening, stops, between, chars⟩ := ((complete stop name).mp member).between
    have begins : (span (stop, name)).1 = opening := by
      dsimp only [span]
      omega
    rw [begins]
    exact ⟨between, chars⟩
  refine ⟨places.map span, ?_, ?_, ?_⟩
  · rw [← names, List.map_map]
    apply List.map_congr_left
    intro place member
    exact congrArg String.ofList (spanned place member).2.symm
  · rw [List.pairwise_map]
    apply ascending.imp_of_mem
    intro first later firstMember laterMember before
    -- a closing brace can stand neither inside of a later placeholder nor at its opening
    have closes := (spanned first firstMember).1.closes
    have opens := (spanned later laterMember).1.opens
    by_contra overlaps
    rcases Nat.eq_or_lt_of_le (Nat.le_of_not_lt overlaps) with same | inside
    · rw [same, show (span first).2 = first.1 from rfl, closes] at opens
      cases opens
    · exact ((spanned later laterMember).1.inside first.1 '\x7d' inside before closes).2.1 rfl
  · intro opening closing
    constructor
    · intro member
      obtain ⟨place, listed, same⟩ := List.mem_map.mp member
      obtain ⟨rfl, rfl⟩ := Prod.mk.inj same
      exact (spanned place listed).1
    · intro between
      have listed := (complete closing _).mpr between.ends
      refine List.mem_map.mpr ⟨_, listed, Prod.ext ?_ rfl⟩
      obtain ⟨inside, -⟩ := List.getElem?_eq_some_iff.mp between.closes
      have filled := between.filled
      simp only [span, charsBetween, List.length_drop, List.length_take]
      omega

example : placeholders "/\x7b\x7ba\x7d/\x7b\x7d\x7bb\x7d/\x7bc/\x7bd\x7d\x7d" = ["a", "b", "d"] := by
  decide +kernel

end Spans

end ApiReview
