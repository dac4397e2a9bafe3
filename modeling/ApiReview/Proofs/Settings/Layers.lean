import ApiReview.Proofs.Settings.Keys
import ApiReview.Settings.KeyPath

/-!
# Putting layers over one another

An entry of a layer assigns something to a setting when its name leads to the group
of the setting, and its value or the rest of its name leads on to the setting
itself.  This is put over what the entries before have assigned to the setting, and
no other entry matters.  A value that stands in the place of a whole group takes
away what was assigned to the settings in it.
-/

namespace ApiReview

open KeyPath (putAt)

namespace Setting

@[simp]
theorem entries_withEntries (s : Setting) (entries : Table Setting) :
    (s.withEntries entries).entries = entries := by
  cases s <;> rfl

@[simp]
theorem isTable_withEntries (s : Setting) (entries : Table Setting) :
    (s.withEntries entries).isTable = true := by
  cases s <;> rfl

theorem entries_withItems (s : Setting) (items : List Setting) :
    (KeyPath.withItems s items).entries = [] := by
  cases s <;> rfl

/-- Put values over what was there, each at the end of some steps. -/
def putAll (assigned : List (List KeyStep × Setting)) (below : Option Setting) : Option Setting :=
  assigned.foldl (fun below (steps, value) => some (putAt value steps below)) below

theorem putAll_append (first second : List (List KeyStep × Setting)) (below : Option Setting) :
    putAll (first ++ second) below = putAll second (putAll first below) :=
  List.foldl_append

theorem putAll_concat (assigned : List (List KeyStep × Setting)) (steps : List KeyStep)
    (value : Setting) (below : Option Setting) :
    putAll (assigned ++ [(steps, value)]) below =
      some (putAt value steps (putAll assigned below)) := by
  rw [putAll_append]
  rfl

theorem mergedOnto_of_not_table {value : Setting} (other : value.isTable = false)
    (below : Option Setting) : value.mergedOnto below = value := by
  cases value with
  | table origin entries => cases other
  | scalar origin scalar => rw [mergedOnto]; simp
  | list origin items => rw [mergedOnto]; simp

/-- The values that entries of a table have for a name. -/
def valuesOf (name : String) (added : Table Setting) : List Setting :=
  (added.filter fun entry => Text.lower entry.1 == name).map Prod.snd

theorem get?_mergeEntries (name : String) (added : Table Setting) (s : Setting) :
    (mergeEntries added s).entries.get? name =
      putAll ((valuesOf name added).map fun value => ([], value)) (s.entries.get? name) := by
  induction added generalizing s with
  | nil => rfl
  | cons entry rest ih =>
      obtain ⟨other, value⟩ := entry
      rw [mergeEntries, ih, entries_withEntries]
      by_cases same : Text.lower other = name
      · subst same
        rw [Table.get?_put_self]
        simp [valuesOf, putAll, putAt]
      · rw [Table.get?_put_of_ne (Ne.symm same)]
        simp [valuesOf, same]

theorem isTable_mergeEntries (added : Table Setting) {s : Setting} (table : s.isTable = true) :
    (mergeEntries added s).isTable = true := by
  induction added generalizing s with
  | nil => exact table
  | cons entry rest ih =>
      rw [mergeEntries]
      exact ih (isTable_withEntries _ _)

/-- Put one entry of a layer over the settings below. -/
def putEntry (below : Setting) (entry : String × Setting) : Setting :=
  (KeyPath.ofText entry.1).put entry.2 below

theorem foldl_putLayer (layers : List (Table Setting)) (below : Setting) :
    layers.foldl putLayer below = layers.flatten.foldl putEntry below := by
  rw [List.foldl_flatten]
  rfl

theorem putEntry_eq (below : Setting) (entry : String × Setting) :
    below.putEntry entry = below.withEntries
      (below.entries.put (Text.lower (KeyPath.ofText entry.1).head)
        (putAt entry.2 (KeyPath.ofText entry.1).steps
          (below.entries.get? (Text.lower (KeyPath.ofText entry.1).head)))) := by
  rw [putEntry, KeyPath.put, putAt]
  rfl

theorem get?_putEntry_self {below : Setting} {entry : String × Setting} {group : String}
    (leads : Text.lower (KeyPath.ofText entry.1).head = group) :
    (below.putEntry entry).entries.get? group =
      some (putAt entry.2 (KeyPath.ofText entry.1).steps (below.entries.get? group)) := by
  rw [putEntry_eq, entries_withEntries, leads, Table.get?_put_self]

theorem get?_putEntry_of_ne {below : Setting} {entry : String × Setting} {group : String}
    (elsewhere : Text.lower (KeyPath.ofText entry.1).head ≠ group) :
    (below.putEntry entry).entries.get? group = below.entries.get? group := by
  rw [putEntry_eq, entries_withEntries, Table.get?_put_of_ne (Ne.symm elsewhere)]

theorem isTable_foldl_putEntry {entries : Table Setting} {below : Setting}
    (table : below.isTable = true) : (entries.foldl putEntry below).isTable = true := by
  induction entries generalizing below with
  | nil => exact table
  | cons entry rest ih =>
      apply ih
      rw [putEntry_eq]
      exact isTable_withEntries _ _

/-- A value behind some steps from a group makes it something other than a table. -/
def replacesTable (value : Setting) : List KeyStep → Bool
  | [] => !value.isTable
  | .name _ :: _ => false
  | .position _ :: _ => true

/-- An entry of a layer makes a group something other than a table. -/
def replaces (group : String) (entry : String × Setting) : Bool :=
  let path := KeyPath.ofText entry.1
  Text.lower path.head == group && replacesTable entry.2 path.steps

end Setting

namespace SettingKey

open Setting (putAll putEntry replaces replacesTable)

/-- What a value assigns to the setting of a name, when it is put behind some steps
from the group: values, each with the steps that lead on to it from the setting. -/
def assignsBehind (name : String) (value : Setting) :
    List KeyStep → List (List KeyStep × Setting)
  | [] => (Setting.valuesOf name value.entries).map fun value => ([], value)
  | .name s :: rest => if Text.lower s = name then [(rest, value)] else []
  | .position _ :: _ => []

/-- What an entry of a layer assigns to a setting. -/
def assigns (key : SettingKey) (entry : String × Setting) : List (List KeyStep × Setting) :=
  let path := KeyPath.ofText entry.1
  if Text.lower path.head = key.group then assignsBehind key.name entry.2 path.steps else []

variable {key : SettingKey} {entry : String × Setting} {below value : Setting}
  {group : Option Setting}

theorem inside?_eq (group : Option Setting) :
    key.inside? group = (group.getD .emptyTable).entries.get? key.name := by
  cases group <;> rfl

theorem inside?_putAt (steps : List KeyStep) :
    key.inside? (some (putAt value steps group)) =
      if replacesTable value steps then none
      else putAll (assignsBehind key.name value steps) (key.inside? group) := by
  rw [inside?_eq, Option.getD_some]
  cases steps with
  | nil =>
      rw [putAt]
      cases value with
      | table origin added =>
          rw [Setting.mergedOnto, Setting.get?_mergeEntries, ← inside?_eq]
          rfl
      | scalar origin scalar =>
          rw [Setting.mergedOnto_of_not_table rfl]
          rfl
      | list origin items =>
          rw [Setting.mergedOnto_of_not_table rfl]
          rfl
  | cons step rest =>
      cases step with
      | name s =>
          rw [putAt, Setting.entries_withEntries, assignsBehind]
          by_cases here : Text.lower s = key.name
          · rw [here, Table.get?_put_self, if_pos rfl, inside?_eq]
            rfl
          · rw [Table.get?_put_of_ne (Ne.symm here), if_neg here, ← inside?_eq]
            rfl
      | position index =>
          rw [putAt, Setting.entries_withItems]
          rfl

/-- What an entry assigns is put over what was assigned before, unless it replaces the
whole group. -/
theorem at?_putEntry :
    key.at? (below.putEntry entry) =
      if replaces key.group entry then none else putAll (key.assigns entry) (key.at? below) := by
  unfold at? assigns replaces
  by_cases leads : Text.lower (KeyPath.ofText entry.1).head = key.group
  · rw [Setting.get?_putEntry_self leads, inside?_putAt]
    simp [leads]
  · rw [Setting.get?_putEntry_of_ne leads]
    simp [leads, putAll]

theorem at?_foldl_putEntry {entries : Table Setting}
    (kept : ∀ entry ∈ entries, replaces key.group entry = false) :
    key.at? (entries.foldl putEntry below) =
      putAll (entries.flatMap key.assigns) (key.at? below) := by
  induction entries generalizing below with
  | nil => rfl
  | cons entry rest ih =>
      obtain ⟨first, others⟩ := List.forall_mem_cons.mp kept
      rw [List.foldl_cons, ih others, at?_putEntry, first, List.flatMap_cons,
        Setting.putAll_append]
      rfl

end SettingKey

namespace Setting

/-- An entry of a layer leads to a table in the outermost one. -/
def leadsToTable (entry : String × Setting) : Bool :=
  !replacesTable entry.2 (KeyPath.ofText entry.1).steps

/-- A layer is a table of tables: each of its entries leads to a table. -/
def TableOfTables (layer : Table Setting) : Prop :=
  ∀ entry ∈ layer, leadsToTable entry = true

/-- Whatever stands directly in a setting is a table. -/
def HoldsTables (s : Setting) : Prop :=
  ∀ name, Conversion.TableIfAny (s.entries.get? name)

theorem holdsTables_emptyTable : emptyTable.HoldsTables :=
  fun _ => Conversion.tableIfAny_none

theorem isTable_putAt {value : Setting} {steps : List KeyStep} {below : Option Setting}
    (table : Conversion.TableIfAny below)
    (leads : replacesTable value steps = false) :
    (putAt value steps below).isTable = true := by
  cases steps with
  | nil =>
      have isTable : value.isTable = true := by simpa [replacesTable] using leads
      obtain ⟨origin, added, rfl⟩ := isTable_iff.mp isTable
      rw [putAt, mergedOnto]
      apply isTable_mergeEntries
      rcases table.cases with rfl | ⟨origin, entries, rfl⟩ <;> rfl
  | cons step rest =>
      cases step with
      | name s =>
          rw [putAt]
          exact isTable_withEntries _ _
      | position index => cases leads

theorem HoldsTables.foldl_putEntry {entries : Table Setting} {below : Setting}
    (tables : below.HoldsTables) (layer : TableOfTables entries) :
    (entries.foldl putEntry below).HoldsTables := by
  induction entries generalizing below with
  | nil => exact tables
  | cons entry rest ih =>
      obtain ⟨first, others⟩ := List.forall_mem_cons.mp layer
      refine ih (fun name => ?_) others
      by_cases leads : Text.lower (KeyPath.ofText entry.1).head = name
      · rw [get?_putEntry_self leads]
        rintro s ⟨⟩
        exact isTable_putAt (tables name) (by simpa [leadsToTable] using first)
      · rw [get?_putEntry_of_ne leads]
        exact tables name

theorem replaces_of_leadsToTable {group : String} {entry : String × Setting}
    (leads : leadsToTable entry = true) : replaces group entry = false := by
  have kept : replacesTable entry.2 (KeyPath.ofText entry.1).steps = false := by
    simpa [leadsToTable] using leads
  simp [replaces, kept]

end Setting

end ApiReview
