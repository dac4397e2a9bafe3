import ApiReview.Proofs.Settings.Layers
import Mathlib.Data.List.Forall2

/-!
# Assigning to a setting again

Some values are assigned to a setting, and what it has become is printed.  When the
same values are assigned to it once more, now with what was printed below them, it
becomes the same again.

A value that is assigned to the whole of the setting is what both ways lead to.  A
value for a part of it can matter only if the setting is a choice, which may be given
as a table, or a list of texts, each item of which was then set or printed.
-/

namespace ApiReview

open KeyPath (putAt items withItems placeIn)
open Setting (putAll)

namespace Setting

def isList : Setting → Bool
  | .list _ _ => true
  | _ => false

theorem isList_iff {s : Setting} : s.isList = true ↔ ∃ origin items, s = .list origin items := by
  cases s <;> simp [isList]

theorem not_list_of_table {s : Setting} (table : s.isTable = true) : s.isList = false := by
  obtain ⟨origin, entries, rfl⟩ := isTable_iff.mp table
  rfl

variable {value : Setting} {below : Option Setting} {rest : List KeyStep}

theorem isTable_putAt_name (s : String) :
    (putAt value (.name s :: rest) below).isTable = true := by
  rw [putAt]
  exact isTable_withEntries _ _

theorem isList_putAt_position (index : Int) :
    (putAt value (.position index :: rest) below).isList = true := by
  rw [putAt]
  unfold withItems
  split <;> rfl

/-- A position in something other than a list makes it a list that keeps nothing of it. -/
theorem putAt_position_of_not_list {index : Int} {one other : Option Setting}
    (noList : (one.getD .nothing).isList = false)
    (noList' : (other.getD .nothing).isList = false) :
    putAt value (.position index :: rest) one = putAt value (.position index :: rest) other := by
  have fresh : ∀ s : Setting, s.isList = false →
      items s = [] ∧ ∀ new, withItems s new = .list none new := by
    intro s noList
    cases s with
    | list origin items => cases noList
    | scalar | table => exact ⟨rfl, fun _ => rfl⟩
  obtain ⟨noItems, withNew⟩ := fresh _ noList
  obtain ⟨noItems', withNew'⟩ := fresh _ noList'
  rw [putAt, putAt, noItems, noItems', withNew, withNew']

/-- A value for a part makes the whole a table or a list. -/
theorem putAt_inside {steps : List KeyStep} (inside : steps ≠ []) :
    (putAt value steps below).isTable = true ∨ (putAt value steps below).isList = true := by
  match steps, inside with
  | .name s :: rest, _ => exact .inl (isTable_putAt_name s)
  | .position index :: rest, _ => exact .inr (isList_putAt_position index)

end Setting

namespace Conversion

variable {α : Type} {convert : Conversion α} {default a : α} {printed one other value : Setting}
  {below : Option Setting} {steps : List KeyStep}

/-- What two values have become to which the same was assigned, where the second of
them was the printed one. -/
inductive Again (apart : Setting → Setting → Prop) (printed : Setting) :
    Option Setting → Option Setting → Prop
  /-- Nothing has been assigned. -/
  | untouched (below : Option Setting) : Again apart printed below (some printed)
  | same (s : Setting) : Again apart printed (some s) (some s)
  /-- All that has been assigned are parts. -/
  | apart {one other : Setting} (related : apart one other) :
      Again apart printed (some one) (some other)

/-- A conversion whose result can be printed and assigned to again; `apart` is what
assigning to parts, with steps that are allowed, leads to. -/
structure Repeats (convert : Conversion α) (a : α) (printed : Setting)
    (allowed : List KeyStep → Prop) (apart : Setting → Setting → Prop) : Prop where
  converts : convert printed = .ok a
  begins : ∀ {steps} value below, steps ≠ [] → allowed steps →
    apart (putAt value steps below) (putAt value steps (some printed))
  goesOn : ∀ {steps} value {one other}, steps ≠ [] → allowed steps → apart one other →
    apart (putAt value steps (some one)) (putAt value steps (some other)) ∨
      putAt value steps (some one) = putAt value steps (some other)
  ends : ∀ {one other}, apart one other → convert one = .ok a → convert other = .ok a

namespace Repeats

variable {allowed : List KeyStep → Prop} {apart : Setting → Setting → Prop}

theorem step (repeats : Repeats convert a printed allowed apart) {one other : Option Setting}
    (again : Again apart printed one other) (whole : value.isTable = false)
    (isAllowed : allowed steps) :
    Again apart printed (some (putAt value steps one)) (some (putAt value steps other)) := by
  by_cases inside : steps = []
  · subst inside
    simp only [putAt, Setting.mergedOnto_of_not_table whole]
    exact .same value
  · cases again with
    | untouched below => exact .apart (repeats.begins value one inside isAllowed)
    | same s => exact .same _
    | apart related =>
        rcases repeats.goesOn value inside isAllowed related with further | equal
        · exact .apart further
        · rw [equal]
          exact .same _

theorem takes_putAll (repeats : Repeats convert a printed allowed apart)
    {assigned : List (List KeyStep × Setting)}
    (wholes : ∀ entry ∈ assigned, entry.2.isTable = false)
    (areAllowed : ∀ entry ∈ assigned, allowed entry.1)
    (takes : Takes convert default (putAll assigned below) a) :
    Takes convert default (putAll assigned (some printed)) a := by
  -- The induction is on what is assigned.  Only what both ways have led to so far
  -- carries it, whether the value could be converted on the way does not matter.
  have run : ∀ {one other}, Again apart printed one other →
      Again apart printed (putAll assigned one) (putAll assigned other) := by
    clear takes
    induction assigned with
    | nil => exact id
    | cons entry assigned ih =>
        intro one other again
        obtain ⟨whole, wholes⟩ := List.forall_mem_cons.mp wholes
        obtain ⟨isAllowed, areAllowed⟩ := List.forall_mem_cons.mp areAllowed
        exact ih wholes areAllowed (repeats.step again whole isAllowed)
  have last := run (.untouched below)
  generalize putAll assigned below = first at takes last
  generalize putAll assigned (some printed) = second at last
  cases last with
  | untouched below => exact repeats.converts
  | same s => exact takes
  | apart related => exact repeats.ends related takes

end Repeats

section Flags

theorem flag_repeats (origin : Option Origin) (b : Bool) (allowed : List KeyStep → Prop) :
    Repeats flag b (.scalar origin (.flag b)) allowed
      fun one _ => one.isTable = true ∨ one.isList = true where
  converts := rfl
  begins _ _ inside _ := Setting.putAt_inside inside
  goesOn _ _ _ inside _ _ := .inl (Setting.putAt_inside inside)
  ends := by
    intro one other container converted
    rcases container with table | list
    · obtain ⟨origin, entries, rfl⟩ := Setting.isTable_iff.mp table
      cases converted
    · obtain ⟨origin, items, rfl⟩ := Setting.isList_iff.mp list
      cases converted

end Flags

section Choices

variable {name : String} {words : List (String × α)}

/-- The second value has some names of the first one, or the first one is a list. -/
structure NamesWithin (one other : Setting) : Prop where
  distinct : Table.Distinct other.entries
  within : ∀ name ∈ Table.names other.entries, name ∈ Table.names one.entries
  shape : one.isList = true ∨
    one.isTable = true ∧ other.isTable = true ∧ other.entries ≠ []

theorem namesWithin_putAt {one other : Option Setting} (inside : steps ≠ [])
    (distinct : Table.Distinct (other.getD .emptyTable).entries)
    (within : ∀ name ∈ Table.names (other.getD .emptyTable).entries,
      name ∈ Table.names (one.getD .emptyTable).entries) :
    NamesWithin (putAt value steps one) (putAt value steps other) := by
  obtain ⟨step, rest, rfl⟩ := List.exists_cons_of_ne_nil inside
  cases step with
  | position index =>
      have none : (putAt value (.position index :: rest) other).entries = [] := by
        rw [putAt, Setting.entries_withItems]
      refine ⟨?_, ?_, .inl (Setting.isList_putAt_position index)⟩
      · rw [none]
        exact List.nodup_nil
      · rw [none]
        exact List.forall_mem_nil _
  | name s =>
      have named : ∀ below : Option Setting, ∃ inner,
          (putAt value (.name s :: rest) below).entries =
            (below.getD .emptyTable).entries.put (Text.lower s) inner := fun below =>
        ⟨_, by rw [putAt, Setting.entries_withEntries]⟩
      obtain ⟨inner, oneEntries⟩ := named one
      obtain ⟨inner', otherEntries⟩ := named other
      have new : Text.lower s ∈ Table.names (putAt value (.name s :: rest) other).entries := by
        rw [otherEntries]
        exact Table.mem_names_put.mpr (.inl rfl)
      refine ⟨?_, ?_, .inr ⟨Setting.isTable_putAt_name s, Setting.isTable_putAt_name s, ?_⟩⟩
      · rw [otherEntries]
        exact distinct.put _ _
      · rw [oneEntries, otherEntries]
        intro name member
        rcases Table.mem_names_put.mp member with isNew | member
        · exact Table.mem_names_put.mpr (.inl isNew)
        · exact Table.mem_names_put.mpr (.inr (within name member))
      · intro empty
        rw [empty] at new
        exact List.not_mem_nil new

/-- The only name that the first of two tables has is the only one of the second. -/
theorem NamesWithin.choice_eq (within : NamesWithin one other)
    (converted : choice name words one = .ok a) : choice name words other = .ok a := by
  rcases within.shape with list | ⟨oneTable, otherTable, notEmpty⟩
  · obtain ⟨origin, items, rfl⟩ := Setting.isList_iff.mp list
    cases converted
  · obtain ⟨origin, entries, rfl⟩ := Setting.isTable_iff.mp oneTable
    obtain ⟨origin', entries', rfl⟩ := Setting.isTable_iff.mp otherTable
    match entries, entries', converted, within.distinct, within.within, notEmpty with
    | [(word, _)], [(word', _)], converted, _, names, _ =>
        have same : word' = word := by simpa [Table.names, Setting.entries] using names
        rw [same]
        exact converted
    | [(word, _)], (first, _) :: (second, _) :: _, _, distinct, names, _ =>
        simp only [Table.names, Setting.entries, List.map_cons, List.forall_mem_cons,
          List.map_nil, List.mem_singleton] at names
        obtain ⟨rfl, rfl, -⟩ := names
        simp [Table.Distinct, Table.names, Setting.entries] at distinct
    | [(_, _)], [], _, _, _, notEmpty => exact absurd rfl notEmpty

theorem choice_repeats (origin : Option Origin) {word : String}
    (picks : choice name words (.scalar origin (.text word)) = .ok a)
    (allowed : List KeyStep → Prop) :
    Repeats (choice name words) a (.scalar origin (.text word)) allowed NamesWithin where
  converts := picks
  begins _ _ inside _ := namesWithin_putAt inside List.nodup_nil (List.forall_mem_nil _)
  goesOn _ _ _ inside _ within := .inl (namesWithin_putAt inside within.distinct within.within)
  ends within converted := within.choice_eq converted

end Choices

section Texts

variable {printed one other : Setting} {texts : List String} {origin : Option Origin}
  {rest : List KeyStep}

theorem itemsFrom_eq_ok_iff {index : Nat} {items : List Setting} {values : List α} :
    itemsFrom convert index items = .ok values ↔
      List.Forall₂ (fun s value => convert s = .ok value) items values := by
  induction items generalizing index values with
  | nil => cases values <;> simp [itemsFrom]
  | cons s rest ih =>
      unfold itemsFrom
      rw [Except.bind_eq_ok_iff]
      simp only [Except.mapError_eq_ok_iff]
      constructor
      · rintro ⟨value, first, further⟩
        obtain ⟨values, others, equal⟩ := Except.bind_eq_ok_iff.mp further
        cases equal
        exact .cons first (ih.mp others)
      · rintro (_ | ⟨first, others⟩)
        exact ⟨_, first, Except.bind_eq_ok_iff.mpr ⟨_, ih.mpr others, rfl⟩⟩

theorem text_ne_ok {s : Setting} (container : s.isTable = true ∨ s.isList = true) (t : String) :
    text s ≠ .ok t := by
  rintro converted
  rcases container with table | list
  · obtain ⟨origin, entries, rfl⟩ := Setting.isTable_iff.mp table
    cases converted
  · obtain ⟨origin, items, rfl⟩ := Setting.isList_iff.mp list
    cases converted

/-- What the items at a position of two lists have become when the same parts were put
into both lists, of which the second one was printed. -/
inductive ItemAgain (printed : Setting) : Option Setting → Option Setting → Prop
  | printed (first : Option Setting) : ItemAgain printed first (some printed)
  | same (s : Option Setting) : ItemAgain printed s s
  | unreadable {s : Setting} (other : Option Setting) (unreadable : ∀ t, text s ≠ .ok t) :
      ItemAgain printed (some s) other

/-- If the steps begin with a position in a list, it is counted from the end of the list,
or from its start. -/
def Counts (fromEnd : Bool) (steps : List KeyStep) : Prop :=
  ∀ index rest, steps = .position index :: rest → (index < 0 ↔ fromEnd = true)

/-- A list can still get a length by putting items at positions.  Those that are counted
from its end make it longer only if it is empty. -/
def Fits (fromEnd : Bool) (length wanted : Nat) : Prop :=
  if fromEnd then length = wanted ∨ length = 0 ∧ wanted = 1 else length ≤ wanted

theorem fits_self (fromEnd : Bool) (length : Nat) : Fits fromEnd length length := by
  unfold Fits
  split
  · exact .inl rfl
  · exact Nat.le_refl _

/-- A position stands for the same place in a list and in one of the wanted length. -/
theorem Fits.place_eq {fromEnd : Bool} {index : Int} {length wanted : Nat}
    (counted : index < 0 ↔ fromEnd = true)
    (fits : Fits fromEnd (max length (placeIn index length + 1)) wanted) :
    Fits fromEnd length wanted ∧ placeIn index length = placeIn index wanted ∧
      placeIn index wanted < wanted := by
  unfold Fits placeIn at *
  cases fromEnd with
  | true =>
      have negative : index < 0 := counted.mpr rfl
      have positive : 0 < index.natAbs := Int.natAbs_pos.mpr (Int.ne_of_lt negative)
      simp only [if_true, if_pos negative] at fits ⊢
      omega
  | false =>
      have positive : ¬index < 0 := fun negative => absurd (counted.mp negative) (by decide)
      simp only [Bool.false_eq_true, if_false, if_neg positive] at fits ⊢
      refine ⟨?_, trivial, ?_⟩ <;> omega

/-- The items of two lists to which the same was assigned, as long as the first list can
still get as long as the printed one. -/
def ItemsAgain (fromEnd : Bool) (origin : Option Origin) (texts : List String)
    (one other : List Setting) : Prop :=
  Fits fromEnd one.length texts.length → other.length = texts.length ∧
    ∀ (k : Nat) t, texts[k]? = some t →
      ItemAgain (.scalar origin (.text t)) one[k]? other[k]?

/-- Put a value at a position of a list, or at the end of some steps from there. -/
def itemsPut (value : Setting) (rest : List KeyStep) (index : Int) (items : List Setting) :
    List Setting :=
  let place := placeIn index items.length
  let filled := items ++ List.replicate (place + 1 - items.length) Setting.nothing
  filled.set place (if rest.isEmpty then value else putAt value rest filled[place]?)

theorem items_putAt_position (index : Int) :
    items (putAt value (.position index :: rest) below) =
      itemsPut value rest index (items (below.getD .nothing)) := by
  have held : ∀ (s : Setting) new, items (withItems s new) = new := by
    intro s new
    cases s <;> rfl
  rw [putAt, held]
  rfl

theorem ItemsAgain.put {fromEnd : Bool} {index : Int} {one other : List Setting}
    (again : ItemsAgain fromEnd origin texts one other) (counted : index < 0 ↔ fromEnd = true) :
    ItemsAgain fromEnd origin texts (itemsPut value rest index one)
      (itemsPut value rest index other) := by
  unfold itemsPut
  intro fits
  have longer : one.length + (placeIn index one.length + 1 - one.length) =
      max one.length (placeIn index one.length + 1) := by omega
  simp only [List.length_set, List.length_append, List.length_replicate, longer] at fits
  obtain ⟨fitsBefore, samePlace, inTexts⟩ := fits.place_eq counted
  obtain ⟨length, items⟩ := again fitsBefore
  rw [← samePlace] at inTexts
  dsimp only
  rw [length, ← samePlace]
  -- The printed list need not be filled up, since it is long enough from the start.
  generalize placeIn index one.length = place at inTexts
  have full : place + 1 - texts.length = 0 := by omega
  rw [full, List.replicate_zero, List.append_nil]
  refine ⟨by simpa using length, ?_⟩
  intro k t printed
  have kept := items k t printed
  have printedInside : k < texts.length := (List.getElem?_eq_some_iff.mp printed).1
  by_cases here : k = place
  · subst here
    rw [List.getElem?_set_self (by simp; omega), List.getElem?_set_self (by omega)]
    by_cases whole : rest = []
    · subst whole
      exact .same _
    · have part : rest.isEmpty = false := by simpa using whole
      simp only [part]
      exact .unreadable _ (text_ne_ok (Setting.putAt_inside whole))
  · rw [List.getElem?_set_ne (Ne.symm here), List.getElem?_set_ne (Ne.symm here)]
    cases first : one[k]? with
    | none =>
        obtain ⟨s, present⟩ : ∃ s, other[k]? = some s :=
          ⟨_, List.getElem?_eq_getElem (by omega)⟩
        rw [first, present] at kept
        cases kept
        rw [present]
        exact .printed _
    | some s =>
        have before : k < one.length := (List.getElem?_eq_some_iff.mp first).1
        rw [List.getElem?_append_left before]
        exact kept

theorem ItemsAgain.forall₂ {fromEnd : Bool} {one other : List Setting}
    (again : ItemsAgain fromEnd origin texts one other)
    (converted : List.Forall₂ (fun s t => text s = .ok t) one texts) :
    List.Forall₂ (fun s t => text s = .ok t) other texts := by
  obtain ⟨sameLength, each⟩ := List.forall₂_iff_get.mp converted
  obtain ⟨length, items⟩ := again (sameLength ▸ fits_self fromEnd one.length)
  refine List.forall₂_iff_get.mpr ⟨length, ?_⟩
  intro k inOther inTexts
  have inOne : k < one.length := by omega
  have kept := items k _ (List.getElem?_eq_getElem inTexts)
  have readable := each k inOne inTexts
  rw [List.get_eq_getElem, List.get_eq_getElem] at readable ⊢
  rw [List.getElem?_eq_getElem inOne, List.getElem?_eq_getElem inOther] at kept
  generalize one[k] = first at kept readable
  generalize other[k] = second at kept
  cases kept with
  | printed => rfl
  | same => exact readable
  | unreadable _ unreadable => exact absurd readable (unreadable _)

/-- Both values are tables, or both are lists of which the second one was printed. -/
inductive TextsAgain (fromEnd : Bool) (origin : Option Origin) (texts : List String) :
    Setting → Setting → Prop
  | tables {one other : Setting} (table : one.isTable = true) (table' : other.isTable = true) :
      TextsAgain fromEnd origin texts one other
  | lists {one other : Setting} (list : one.isList = true) (list' : other.isList = true)
      (again : ItemsAgain fromEnd origin texts (items one) (items other)) :
      TextsAgain fromEnd origin texts one other

theorem TextsAgain.putAt {fromEnd : Bool} {one other : Option Setting} (inside : steps ≠ [])
    (counts : Counts fromEnd steps)
    (again : ItemsAgain fromEnd origin texts (items (one.getD .nothing))
      (items (other.getD .nothing))) :
    TextsAgain fromEnd origin texts (putAt value steps one) (putAt value steps other) := by
  match steps, inside with
  | .name s :: rest, _ =>
      exact .tables (Setting.isTable_putAt_name s) (Setting.isTable_putAt_name s)
  | .position index :: rest, _ =>
      refine .lists (Setting.isList_putAt_position index) (Setting.isList_putAt_position index) ?_
      rw [items_putAt_position, items_putAt_position]
      exact again.put (counts index rest rfl)

def printedTexts (origin : Option Origin) (texts : List String) : Setting :=
  .list origin (texts.map fun t => .scalar origin (.text t))

theorem texts_printedTexts (origin : Option Origin) (texts : List String) :
    Conversion.texts (printedTexts origin texts) = .ok texts := by
  refine itemsFrom_eq_ok_iff.mpr (List.forall₂_map_left_iff.mpr ?_)
  exact List.forall₂_same.mpr fun _ _ => rfl

theorem texts_repeats (fromEnd : Bool) (origin : Option Origin) (texts : List String) :
    Repeats Conversion.texts texts (printedTexts origin texts) (Counts fromEnd)
      (TextsAgain fromEnd origin texts) where
  converts := texts_printedTexts origin texts
  begins := by
    intro steps value below inside counts
    refine TextsAgain.putAt inside counts fun _ => ⟨by simp [printedTexts, items], ?_⟩
    intro k t printed
    simp only [printedTexts, Option.getD_some, items, List.getElem?_map, printed, Option.map_some]
    exact .printed _
  goesOn := by
    intro steps value one other inside counts again
    cases again with
    | lists list list' again => exact .inl (TextsAgain.putAt inside counts again)
    | tables table table' =>
        match steps, inside with
        | .name s :: rest, _ =>
            exact .inl (.tables (Setting.isTable_putAt_name s) (Setting.isTable_putAt_name s))
        | .position index :: rest, _ =>
            exact .inr (Setting.putAt_position_of_not_list (Setting.not_list_of_table table)
              (Setting.not_list_of_table table'))
  ends := by
    intro one other again converted
    cases again with
    | tables table table' =>
        obtain ⟨origin, entries, rfl⟩ := Setting.isTable_iff.mp table
        cases converted
    | lists list list' again =>
        obtain ⟨origin, items, rfl⟩ := Setting.isList_iff.mp list
        obtain ⟨origin', items', rfl⟩ := Setting.isList_iff.mp list'
        exact itemsFrom_eq_ok_iff.mpr (again.forall₂ (itemsFrom_eq_ok_iff.mp converted))

end Texts

end Conversion

end ApiReview
