import ApiReview.Proofs.Table
import ApiReview.Proofs.Toml.WrittenValues

/-!
# Written tables are read back

Sections with distinct names that need no quotes are written line by line.  Each of
these lines is read as the line that it was written for, and together they build the
table of the sections.
-/

namespace ApiReview.Toml

variable {chars rest : List Char} {name : String} {d : Char} {fuel : Nat}

/-- A name that needs no quotes. -/
def IsBare (name : String) : Prop :=
  name.toList ≠ [] ∧ ∀ c ∈ name.toList, isBareChar c = true

instance (name : String) : Decidable (IsBare name) :=
  decidable_of_iff (name.toList.isEmpty = false ∧ name.toList.all isBareChar = true)
    (by simp [IsBare])

namespace Section

/-- Names that need no quotes and stand for one thing each. -/
structure Plain (s : Section) : Prop where
  name : IsBare s.name
  entries : ∀ entry ∈ s.entries, IsBare entry.1
  distinct : Table.Distinct s.entries

theorem Plain.of_names {s : Section} (names : List String) (name : IsBare s.name)
    (same : Table.names s.entries = names) (bare : ∀ other ∈ names, IsBare other)
    (distinct : names.Nodup) : s.Plain := by
  subst same
  refine ⟨name, ?_, distinct⟩
  intro entry member
  exact bare entry.1 (List.mem_map_of_mem (f := Prod.fst) member)

/-- The entries as a TOML table holds them. -/
def values (s : Section) : Table Value :=
  s.entries.map fun (name, entry) => (name, entry.value)

end Section

section Names

theorem ne_of_isBareChar {c : Char} (bare : isBareChar c = true) (other : isBareChar d = false) :
    c ≠ d := by
  rintro rfl
  exact absurd (Eq.trans (Eq.symm bare) other) (by decide)

theorem dropBlanks_bare {c : Char} (bare : isBareChar c = true) (rest : List Char) :
    dropBlanks (c :: rest) = c :: rest := by
  have notSpace : c ≠ ' ' := ne_of_isBareChar bare (by decide)
  have notTab : c ≠ '\t' := ne_of_isBareChar bare (by decide)
  simp [dropBlanks, isBlank, notSpace, notTab]

theorem dropGaps_bare {c : Char} (bare : isBareChar c = true) (rest : List Char) :
    dropGaps false (c :: rest) = c :: rest := by
  have notSpace : c ≠ ' ' := ne_of_isBareChar bare (by decide)
  have notTab : c ≠ '\t' := ne_of_isBareChar bare (by decide)
  have notBreak : c ≠ '\n' := ne_of_isBareChar bare (by decide)
  have notComment : c ≠ '#' := ne_of_isBareChar bare (by decide)
  simp [dropGaps, isBlank, notSpace, notTab, notBreak, notComment]

theorem lineText?_bare {c : Char} (bare : isBareChar c = true) (rest : List Char) :
    lineText? (c :: rest) = none := by
  have notQuote : c ≠ '"' := ne_of_isBareChar bare (by decide)
  have notApostrophe : c ≠ '\'' := ne_of_isBareChar bare (by decide)
  unfold lineText?
  split <;> simp_all

theorem IsBare.toList_eq_cons (bare : IsBare name) :
    ∃ c others, name.toList = c :: others ∧ isBareChar c = true := by
  cases chars : name.toList with
  | nil => exact absurd chars bare.1
  | cons c others => exact ⟨c, others, rfl, bare.2 c (by simp [chars])⟩

theorem namePart_bare (bare : IsBare name) (stop : isBareChar d = false) :
    namePart (name.toList ++ d :: rest) = some (name, d :: rest) := by
  have front : (name.toList ++ d :: rest).takeWhile isBareChar = name.toList := by
    rw [List.takeWhile_append_of_pos bare.2, List.takeWhile_cons, if_neg (by simp [stop]),
      List.append_nil]
  have unquoted : lineText? (name.toList ++ d :: rest) = none := by
    obtain ⟨c, others, chars, bareChar⟩ := bare.toList_eq_cons
    rw [chars, List.cons_append, lineText?_bare bareChar]
  unfold namePart
  rw [unquoted]
  simp [front, bare.1]

theorem dottedName_bare {c : Char} (bare : IsBare name) (stop : isBareChar d = false)
    (next : dropBlanks (d :: rest) = c :: chars) (noDot : c ≠ '.') :
    dottedName (name.toList ++ d :: rest) = some (([], name), c :: chars) := by
  have start : dropBlanks (name.toList ++ d :: rest) = name.toList ++ d :: rest := by
    obtain ⟨first, others, written, bareChar⟩ := bare.toList_eq_cons
    rw [written, List.cons_append, dropBlanks_bare bareChar]
  have parts : nameParts levels (name.toList ++ d :: rest) = some ([name], c :: chars) := by
    rw [levels, nameParts, start, namePart_bare bare stop]
    simp [next, noDot]
  rw [dottedName, parts]
  rfl

end Names

section Lines

/-- A piece of a text is read as a line, whatever follows it.  It needs no other
characters for its line breaks than the one that ends a line. -/
structure ReadsLine (piece : List Char) (read : Line) : Prop where
  ne_nil : piece ≠ []
  noReturn : '\r' ∉ piece
  reads : ∀ rest, ∃ c others, dropGaps false (piece ++ rest) = c :: others ∧
    line (c :: others) = some (read, rest)

theorem lines_pieces (pieces : List (List Char × Line))
    (reads : ∀ piece ∈ pieces, ReadsLine piece.1 piece.2) (enough : pieces.length < fuel) :
    lines fuel (pieces.flatMap Prod.fst) = some (pieces.map Prod.snd) := by
  induction pieces generalizing fuel with
  | nil =>
      cases fuel with
      | zero => cases enough
      | succ fuel => rfl
  | cons piece pieces ih =>
      cases fuel with
      | zero => cases enough
      | succ fuel =>
          obtain ⟨first, further⟩ := List.forall_mem_cons.mp reads
          obtain ⟨c, others, begins, read⟩ := first.reads (pieces.flatMap Prod.fst)
          rw [List.flatMap_cons, lines, begins]
          simp [read, ih further (Nat.lt_of_succ_lt_succ enough)]

theorem length_le_pieces (pieces : List (List Char × Line))
    (reads : ∀ piece ∈ pieces, ReadsLine piece.1 piece.2) :
    pieces.length ≤ (pieces.flatMap Prod.fst).length := by
  induction pieces with
  | nil => exact Nat.zero_le _
  | cons piece pieces ih =>
      obtain ⟨first, further⟩ := List.forall_mem_cons.mp reads
      have longer := ih further
      have positive := List.length_pos_iff.mpr first.ne_nil
      simp only [List.flatMap_cons, List.length_append, List.length_cons]
      omega

theorem endLine_break (rest : List Char) : endLine ('\n' :: rest) = some rest :=
  rfl

/-- The text of the line that opens the table of a section. -/
def openingLine (name : String) : List Char :=
  '[' :: (name.toList ++ [']', '\n'])

/-- The text of the line that gives a value to a name. -/
def entryLine (entry : String × Entry) : List Char :=
  entry.1.toList ++ ' ' :: '=' :: ' ' :: (entry.2.written.toList ++ ['\n'])

theorem line_openingLine (bare : IsBare name) (rest : List Char) :
    line (openingLine name ++ rest) = some (.openTable [] name, rest) := by
  have read : dottedName (name.toList ++ ']' :: '\n' :: rest) =
      some (([], name), ']' :: '\n' :: rest) :=
    dottedName_bare bare (by decide) rfl (by decide)
  have text : openingLine name ++ rest = '[' :: (name.toList ++ ']' :: '\n' :: rest) := by
    simp [openingLine]
  obtain ⟨first, others, written, bareChar⟩ := bare.toList_eq_cons
  have notBracket : first ≠ '[' := ne_of_isBareChar bareChar (by decide)
  rw [text]
  rw [written, List.cons_append] at read ⊢
  unfold line
  simp [notBracket, read, expect, endLine_break]

theorem line_entryLine {name : String} (entry : Entry) (bare : IsBare name) (rest : List Char) :
    line (entryLine (name, entry) ++ rest) = some (.assign [] name entry.value, rest) := by
  let behind := '=' :: ' ' :: (entry.written.toList ++ '\n' :: rest)
  have read : dottedName (name.toList ++ ' ' :: behind) = some (([], name), behind) :=
    dottedName_bare bare (by decide) rfl (by decide)
  have given : value levels (entry.written.toList ++ '\n' :: rest) =
    some (entry.value, '\n' :: rest) := value_entry entry
  have start : dropBlanks (' ' :: (entry.written.toList ++ '\n' :: rest)) =
      entry.written.toList ++ '\n' :: rest := by
    obtain ⟨c, others, written, notBlank⟩ := entry.written_eq_cons
    rw [written]
    simp [dropBlanks, notBlank, show isBlank ' ' = true from rfl]
  have text : entryLine (name, entry) ++ rest = name.toList ++ ' ' :: behind := by
    simp [entryLine, behind]
  have assigned : assignment (value levels) (name.toList ++ ' ' :: behind) =
      some (([], name, entry.value), '\n' :: rest) := by
    rw [assignment, read]
    simp [behind, expect, start, given]
  obtain ⟨first, others, written, bareChar⟩ := bare.toList_eq_cons
  have notBracket : first ≠ '[' := ne_of_isBareChar bareChar (by decide)
  rw [text]
  rw [written, List.cons_append] at assigned ⊢
  unfold line
  split
  · simp_all
  · simp_all
  · rw [assigned]
    rfl

/-- The lines that a section is written for. -/
def Section.lines (s : Section) : List Line :=
  .openTable [] s.name :: s.entries.map fun (name, entry) => .assign [] name entry.value

/-- The lines of a section with their texts; `gap` stands before the first one. -/
def Section.pieces (gap : List Char) (s : Section) : List (List Char × Line) :=
  (gap ++ openingLine s.name, .openTable [] s.name) ::
    s.entries.map fun (name, entry) => (entryLine (name, entry), .assign [] name entry.value)

theorem IsBare.return_notMem (bare : IsBare name) : '\r' ∉ name.toList :=
  fun member => absurd (bare.2 _ member) (by decide)

theorem readsLine_opening (bare : IsBare name) :
    ReadsLine (openingLine name) (.openTable [] name) where
  ne_nil := by simp [openingLine]
  noReturn := by simp [openingLine, bare.return_notMem]
  reads rest := ⟨'[', _, rfl, line_openingLine bare rest⟩

theorem ReadsLine.behindBreak {piece : List Char} {read : Line} (reads : ReadsLine piece read) :
    ReadsLine ('\n' :: piece) read where
  ne_nil := by simp
  noReturn := by simp [reads.noReturn]
  reads rest := reads.reads rest

theorem readsLine_entry (entry : Entry) (bare : IsBare name) :
    ReadsLine (entryLine (name, entry)) (.assign [] name entry.value) where
  ne_nil := by simp [entryLine]
  noReturn := by simp [entryLine, bare.return_notMem, entry.return_notMem]
  reads rest := by
    obtain ⟨c, others, written, bareChar⟩ := bare.toList_eq_cons
    have read := line_entryLine entry bare rest
    have text : entryLine (name, entry) ++ rest =
        c :: (others ++ ' ' :: '=' :: ' ' :: (entry.written.toList ++ '\n' :: rest)) := by
      simp [entryLine, written]
    rw [text] at read ⊢
    exact ⟨c, _, dropGaps_bare bareChar _, read⟩

theorem Section.Plain.readsPieces {s : Section} (plain : s.Plain) {gap : List Char}
    (gaps : gap = [] ∨ gap = ['\n']) : ∀ piece ∈ s.pieces gap, ReadsLine piece.1 piece.2 := by
  refine List.forall_mem_cons.mpr ⟨?_, ?_⟩
  · rcases gaps with rfl | rfl
    · exact readsLine_opening plain.name
    · exact (readsLine_opening plain.name).behindBreak
  · intro piece member
    obtain ⟨⟨name, entry⟩, entryMember, rfl⟩ := List.mem_map.mp member
    exact readsLine_entry entry (plain.entries _ entryMember)

/-- The lines of some sections with their texts. -/
def pieces : List Section → List (List Char × Line)
  | [] => []
  | s :: others => s.pieces [] ++ others.flatMap (Section.pieces ['\n'])

theorem readsPieces (sections : List Section) (plain : ∀ s ∈ sections, s.Plain) :
    ∀ piece ∈ pieces sections, ReadsLine piece.1 piece.2 := by
  cases sections with
  | nil => exact List.forall_mem_nil _
  | cons s others =>
      obtain ⟨first, further⟩ := List.forall_mem_cons.mp plain
      intro piece member
      rcases List.mem_append.mp member with member | member
      · exact first.readsPieces (.inl rfl) piece member
      · obtain ⟨t, inOthers, member⟩ := List.mem_flatMap.mp member
        exact (further t inOthers).readsPieces (.inr rfl) piece member

theorem Section.map_snd_pieces (s : Section) (gap : List Char) :
    (s.pieces gap).map Prod.snd = s.lines := by
  simp [Section.pieces, Section.lines]

theorem map_snd_pieces (sections : List Section) :
    (pieces sections).map Prod.snd = sections.flatMap Section.lines := by
  cases sections with
  | nil => rfl
  | cons s others =>
      rw [pieces, List.map_append, Section.map_snd_pieces, List.map_flatMap, List.flatMap_cons]
      simp only [Section.map_snd_pieces]

theorem Section.toList_written (s : Section) (gap : List Char) :
    (s.pieces gap).flatMap Prod.fst = gap ++ s.written.toList := by
  simp [Section.pieces, Section.written, openingLine, entryLine, List.flatMap_map,
    String.toList_join]

theorem toList_written (sections : List Section) :
    (written sections).toList = (pieces sections).flatMap Prod.fst := by
  cases sections with
  | nil => rfl
  | cons s others =>
      rw [written, pieces, List.flatMap_append, Section.toList_written, List.nil_append]
      induction others generalizing s with
      | nil => simp
      | cons t others ih =>
          rw [List.map_cons, List.map_cons, String.intercalate_cons_cons, ← List.map_cons,
            String.toList_append, ih t, List.flatMap_cons, List.flatMap_append,
            Section.toList_written]
          simp

end Lines

section Building

variable {front inner : Table Item} {key : String} {standing : Standing}

theorem get?_of_notMem_names {α : Type} {t : Table α} (fresh : name ∉ t.names) :
    t.get? name = none := by
  have absent := mt Table.get?_isSome_iff.mp fresh
  simpa using absent

theorem add_openTable {path : List String} (fresh : name ∉ front.names) :
    Building.add ⟨⟨standing, front⟩, path⟩ (.openTable [] name) =
      some ⟨⟨standing, front ++ [(name, .table .opened [])]⟩, [name]⟩ := by
  simp [Building.add, Body.within, Body.openTable, get?_of_notMem_names fresh,
    Table.put_of_notMem_names fresh]

theorem add_assign (fresh : name ∉ front.names) (newKey : key ∉ inner.names) (v : Value) :
    Building.add ⟨⟨standing, front ++ [(name, .table .opened inner)]⟩, [name]⟩
        (.assign [] key v) =
      some ⟨⟨standing, front ++ [(name, .table .opened (inner ++ [(key, .value v)]))]⟩,
        [name]⟩ := by
  have found : Table.get? (front ++ [(name, .table .opened inner)]) name =
      some (.table .opened inner) := by
    rw [Table.get?_append_of_notMem fresh]
    simp [Table.get?]
  have replaced : ∀ item : Item, Table.put (front ++ [(name, .table .opened inner)]) name item =
      front ++ [(name, item)] := by
    intro item
    rw [Table.put_append_of_notMem fresh, Table.put, if_pos rfl]
  have defined : Body.define key v ⟨.opened, inner⟩ =
      some ⟨.opened, inner ++ [(key, .value v)]⟩ := by
    simp [Body.define, get?_of_notMem_names newKey, Table.put_of_notMem_names newKey]
  simp [Building.add, Body.within, Body.assign, found, replaced, defined]

/-- The entries of a table as they are built. -/
def builtEntries (entries : List (String × Entry)) : Table Item :=
  entries.map fun (key, entry) => (key, .value entry.value)

theorem foldlM_assign (entries : List (String × Entry)) (fresh : name ∉ front.names)
    (distinct : (inner.names ++ Table.names entries).Nodup) :
    (entries.map fun (key, entry) => Line.assign [] key entry.value).foldlM Building.add
        ⟨⟨standing, front ++ [(name, .table .opened inner)]⟩, [name]⟩ =
      some ⟨⟨standing, front ++ [(name, .table .opened (inner ++ builtEntries entries))]⟩,
        [name]⟩ := by
  induction entries generalizing inner with
  | nil => simp [builtEntries]
  | cons entry entries ih =>
      obtain ⟨key, entry⟩ := entry
      have newKey : key ∉ inner.names := by
        intro member
        exact (List.nodup_append.mp distinct).2.2 key member key (by simp [Table.names]) rfl
      have further : (Table.names (inner ++ [(key, .value entry.value)]) ++
          Table.names entries).Nodup := by
        simpa [Table.names] using distinct
      rw [List.map_cons, List.foldlM_cons, add_assign fresh newKey, Option.bind_eq_bind,
        Option.bind_some, ih further]
      simp [builtEntries]

/-- A section as it is built. -/
def Section.built (s : Section) : String × Item :=
  (s.name, .table .opened (builtEntries s.entries))

theorem foldlM_section {s : Section} (plain : s.Plain) {path : List String}
    (fresh : s.name ∉ front.names) :
    s.lines.foldlM Building.add ⟨⟨standing, front⟩, path⟩ =
      some ⟨⟨standing, front ++ [s.built]⟩, [s.name]⟩ := by
  have distinct : (Table.names ([] : Table Item) ++ Table.names s.entries).Nodup := plain.distinct
  rw [Section.lines, List.foldlM_cons, add_openTable fresh, Option.bind_eq_bind,
    Option.bind_some, foldlM_assign s.entries fresh distinct]
  rfl

theorem foldlM_sections (sections : List Section) (plain : ∀ s ∈ sections, s.Plain)
    (distinct : (front.names ++ sections.map Section.name).Nodup) (path : List String) :
    ∃ last, (sections.flatMap Section.lines).foldlM Building.add ⟨⟨standing, front⟩, path⟩ =
      some ⟨⟨standing, front ++ sections.map Section.built⟩, last⟩ := by
  induction sections generalizing front path with
  | nil => exact ⟨path, by simp⟩
  | cons s sections ih =>
      obtain ⟨first, others⟩ := List.forall_mem_cons.mp plain
      have fresh : s.name ∉ front.names := by
        intro member
        exact (List.nodup_append.mp distinct).2.2 s.name member s.name (by simp) rfl
      have further : (Table.names (front ++ [s.built]) ++ sections.map Section.name).Nodup := by
        simpa [Table.names, Section.built] using distinct
      obtain ⟨last, built⟩ := ih others further [s.name]
      refine ⟨last, ?_⟩
      rw [List.flatMap_cons, List.foldlM_append, foldlM_section first fresh, Option.bind_eq_bind,
        Option.bind_some, built]
      simp

theorem entriesToValues_built (sections : List Section) :
    entriesToValues (sections.map Section.built) =
      sections.map fun s => (s.name, .table s.values) := by
  have inner : ∀ entries : List (String × Entry), entriesToValues (builtEntries entries) =
      entries.map fun (key, entry) => (key, entry.value) := by
    intro entries
    induction entries with
    | nil => rfl
    | cons entry entries ih =>
        rw [List.map_cons, ← ih]
        rfl
  induction sections with
  | nil => rfl
  | cons s sections ih =>
      rw [List.map_cons, List.map_cons, ← ih, Section.values, ← inner]
      rfl

end Building

theorem unifyBreaks_eq_self {chars : List Char} (noReturn : '\r' ∉ chars) :
    unifyBreaks chars = chars := by
  induction chars with
  | nil => rfl
  | cons c chars ih =>
      obtain ⟨notReturn, further⟩ := not_or.mp (mt List.mem_cons.mpr noReturn)
      unfold unifyBreaks
      split
      · simp_all
      · simp_all
      · simp_all

/-- The table that is read of written sections is the one of the sections. -/
theorem read_written (sections : List Section) (plain : ∀ s ∈ sections, s.Plain)
    (distinct : (sections.map Section.name).Nodup) :
    read (written sections) = some (sections.map fun s => (s.name, .table s.values)) := by
  have reads := readsPieces sections plain
  let chars := (pieces sections).flatMap Prod.fst
  have noMark : dropMark chars = chars := by
    cases sections <;> rfl
  have noReturn : '\r' ∉ chars := by
    intro member
    obtain ⟨piece, pieceMember, inPiece⟩ := List.mem_flatMap.mp member
    exact (reads piece pieceMember).noReturn inPiece
  have enough : (pieces sections).length < chars.length + 1 :=
    Nat.lt_succ_of_le (length_le_pieces _ reads)
  have allLines : lines (chars.length + 1) chars = some (sections.flatMap Section.lines) := by
    rw [lines_pieces _ reads enough, map_snd_pieces]
  have fresh : (Table.names ([] : Table Item) ++ sections.map Section.name).Nodup := distinct
  obtain ⟨last, built⟩ : ∃ last, (sections.flatMap Section.lines).foldlM Building.add {} =
      some ⟨⟨.opened, [] ++ sections.map Section.built⟩, last⟩ :=
    foldlM_sections sections plain fresh []
  have table : tableOfLines (sections.flatMap Section.lines) =
      some (sections.map fun s => (s.name, .table s.values)) := by
    rw [tableOfLines, built, ← entriesToValues_built]
    rfl
  unfold read
  rw [toList_written, show (pieces sections).flatMap Prod.fst = chars from rfl, noMark,
    unifyBreaks_eq_self noReturn]
  dsimp only
  rw [allLines]
  exact table

end ApiReview.Toml
