import ApiReview.Document.Pointer
import Mathlib.Data.String.Basic

/-!
# Keys and pointers

A pointer is the text of some keys: an opening `#`, then for every key a slash
and the key with `~` and `/` escaped.  Cutting at the slashes and undoing the
escapes gives the keys back, so different keys have different pointers.
-/

namespace ApiReview.Pointer

variable {key name sort : String} {keys : List String}

section Escapes

variable {chars : List Char} {c : Char}

/-- A key that needs no escapes. -/
def Plain (key : String) : Prop :=
  '~' ∉ key.toList ∧ '/' ∉ key.toList

instance (key : String) : Decidable (Plain key) :=
  inferInstanceAs (Decidable ('~' ∉ key.toList ∧ '/' ∉ key.toList))

theorem toList_escape : (escape key).toList = key.toList.flatMap escapeChar := by
  simp [escape]

theorem escapeChar_of_plain (noTilde : c ≠ '~') (noSlash : c ≠ '/') : escapeChar c = [c] := by
  simp [escapeChar, noTilde, noSlash]

theorem slash_notMem_escapeChar : '/' ∉ escapeChar c := by
  unfold escapeChar
  by_cases tilde : c = '~'
  · simp [tilde]
  · by_cases slash : c = '/'
    · simp [slash]
    · simpa [tilde, slash] using Ne.symm slash

theorem slash_notMem_escape : '/' ∉ (escape key).toList := by
  rw [toList_escape]
  intro member
  obtain ⟨c, -, slash⟩ := List.mem_flatMap.mp member
  exact slash_notMem_escapeChar slash

theorem unescapeList_cons (noTilde : c ≠ '~') :
    unescapeList (c :: chars) = c :: unescapeList chars := by
  rw [unescapeList]
  · exact fun rest opens _ => noTilde opens
  · exact fun rest opens _ => noTilde opens

theorem unescapeList_escape : unescapeList (chars.flatMap escapeChar) = chars := by
  induction chars with
  | nil => rfl
  | cons c rest ih =>
      rw [List.flatMap_cons]
      by_cases tilde : c = '~'
      · simp [tilde, escapeChar, unescapeList, ih]
      · by_cases slash : c = '/'
        · simp [slash, escapeChar, unescapeList, ih]
        · rw [escapeChar_of_plain tilde slash, List.singleton_append, unescapeList_cons tilde, ih]

/-- Undoing the escapes of a segment gives its key. -/
@[simp]
theorem unescape_escape (key : String) : unescape (escape key) = key := by
  rw [unescape, toList_escape, unescapeList_escape, String.ofList_toList]

theorem length_flatMap_escapeChar :
    (chars.flatMap escapeChar).length =
      chars.length + chars.countP fun c => c == '~' || c == '/' := by
  induction chars with
  | nil => rfl
  | cons c rest ih =>
      rw [List.flatMap_cons, List.length_append, ih, List.countP_cons, List.length_cons]
      by_cases tilde : c = '~'
      · simp only [tilde, escapeChar]
        simp
        omega
      · by_cases slash : c = '/'
        · simp only [slash, escapeChar]
          simp
          omega
        · simp only [escapeChar_of_plain tilde slash]
          simp [tilde, slash]
          omega

/-- A key stays as it is exactly when it needs no escapes. -/
theorem escape_eq_self_iff : escape key = key ↔ Plain key := by
  constructor
  · intro same
    have lengths := congrArg (fun text => text.toList.length) same
    simp only [toList_escape, length_flatMap_escapeChar, Nat.add_eq_left,
      List.countP_eq_zero] at lengths
    constructor
    · intro member
      simpa using lengths '~' member
    · intro member
      simpa using lengths '/' member
  · rintro ⟨noTilde, noSlash⟩
    apply String.toList_inj.mp
    rw [toList_escape]
    have alone : ∀ c ∈ key.toList, escapeChar c = [c] := fun c member =>
      escapeChar_of_plain (fun tilde => noTilde (tilde ▸ member))
        (fun slash => noSlash (slash ▸ member))
    rw [List.flatMap_congr alone]
    simp

end Escapes

/-- The pointer over some keys. -/
def ofKeys (keys : List String) : String :=
  "/".intercalate ("#" :: keys.map escape)

/-- The keys of a pointer; none for a text that is not a pointer. -/
def keys? (pointer : String) : Option (List String) :=
  match pointer.toList.splitOn '/' with
  | ['#'] :: segments => some (segments.map fun segment => unescape (String.ofList segment))
  | _ => none

@[simp]
theorem keys?_ofKeys (keys : List String) : keys? (ofKeys keys) = some keys := by
  have pieces : (ofKeys keys).toList.splitOn '/' =
      ['#'] :: keys.map fun key => (escape key).toList := by
    unfold ofKeys
    rw [String.toList_intercalate]
    have noSlash : ∀ piece ∈ (("#" :: keys.map escape).map String.toList), '/' ∉ piece := by
      simp [slash_notMem_escape]
    have cut := List.splitOn_intercalate '/' noSlash (by simp)
    simpa [Function.comp_def] using cut
  unfold keys?
  rw [pieces]
  simp [Function.comp_def]

theorem ofKeys_injective : Function.Injective ofKeys := by
  intro one two same
  have keys := congrArg keys? same
  simpa using keys

@[simp]
theorem ofKeys_inj {one two : List String} : ofKeys one = ofKeys two ↔ one = two :=
  ofKeys_injective.eq_iff

theorem child_ofKeys : child (ofKeys keys) key = ofKeys (keys ++ [key]) := by
  unfold ofKeys child
  rw [List.map_append, List.map_singleton, ← List.cons_append,
    String.intercalate_append_of_ne_nil (by simp) (by simp), String.intercalate_singleton]

/-- A key that needs no escapes is written out in pointers. -/
theorem ofKeys_append (key : String) (plain : Plain key) :
    ofKeys keys ++ ("/" ++ key) = ofKeys (keys ++ [key]) := by
  rw [← child_ofKeys, child, escape_eq_self_iff.mpr plain, String.append_assoc]

theorem isDigit_of_mem_toString {index : Nat} {c : Char} (member : c ∈ (toString index).toList) :
    c.isDigit = true := by
  rw [Nat.toString_eq_repr, Nat.toList_repr] at member
  exact Nat.isDigit_of_mem_toDigits (by decide) (by decide) member

theorem plain_toString (index : Nat) : Plain (toString index) :=
  ⟨fun tilde => absurd (isDigit_of_mem_toString tilde) (by decide),
    fun slash => absurd (isDigit_of_mem_toString slash) (by decide)⟩

theorem ofKeys_append_index (plain : Plain key) (index : Nat) :
    ofKeys keys ++ ("/" ++ key) ++ "/" ++ toString index =
      ofKeys (keys ++ [key] ++ [toString index]) := by
  rw [ofKeys_append key plain, String.append_assoc, ofKeys_append _ (plain_toString index)]

theorem path_eq : path name = ofKeys ["paths", name] := by
  have owner : ofKeys ["paths"] = "#/paths" := by decide
  have slash : "#/paths/" = "#/paths" ++ "/" := by decide
  change _ = ofKeys (["paths"] ++ [name])
  rw [← child_ofKeys, owner, path, child, slash]

theorem component_eq (plain : Plain sort) :
    component sort name = ofKeys ["components", sort, name] := by
  have owner : ofKeys ["components"] = "#/components" := by decide
  have slash : "#/components/" = "#/components" ++ "/" := by decide
  have sorted : ofKeys ["components", sort] = "#/components/" ++ sort := by
    change ofKeys (["components"] ++ [sort]) = _
    rw [← ofKeys_append sort plain, owner, slash, String.append_assoc]
  change _ = ofKeys (["components", sort] ++ [name])
  rw [← child_ofKeys, sorted, component, child]

theorem schema_eq : schema name = ofKeys ["components", "schemas", name] := by
  have root : schemaRoot = "#/components/" ++ "schemas" ++ "/" := by decide
  rw [← component_eq (by decide), schema, root, component]

end ApiReview.Pointer
