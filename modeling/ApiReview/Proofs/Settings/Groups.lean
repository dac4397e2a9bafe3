import ApiReview.Proofs.Settings.Precedence
import ApiReview.Proofs.Settings.Repeating

/-!
# What becomes of a group

The entries of the environment are put over two values of a group, the second of which
is a table.  The first entry that replaces the group makes both of them the same.  If
there is none, the group is a table in the end, unless nothing was assigned in it.
-/

namespace ApiReview

open KeyPath (putAt)

namespace Setting

variable {group : String} {entries : Table Setting} {entry : String × Setting}
  {below one other : Setting}

/-- An entry of a layer leads to a group or to something in it. -/
def LeadsTo (group : String) (entry : String × Setting) : Prop :=
  Text.lower (KeyPath.ofText entry.1).head = group

/-- There is a table in the place of a group. -/
def HoldsTable (group : String) (s : Setting) : Prop :=
  ∃ inner, s.entries.get? group = some inner ∧ inner.isTable = true

theorem get?_foldl_putEntry_congr (same : one.entries.get? group = other.entries.get? group) :
    (entries.foldl putEntry one).entries.get? group =
      (entries.foldl putEntry other).entries.get? group := by
  induction entries generalizing one other with
  | nil => exact same
  | cons entry rest ih =>
      apply ih
      by_cases leads : LeadsTo group entry
      · rw [get?_putEntry_self leads, get?_putEntry_self leads, same]
      · rw [get?_putEntry_of_ne leads, get?_putEntry_of_ne leads, same]

theorem get?_foldl_putEntry_silent (silent : ∀ entry ∈ entries, ¬LeadsTo group entry) :
    (entries.foldl putEntry below).entries.get? group = below.entries.get? group := by
  induction entries generalizing below with
  | nil => rfl
  | cons entry rest ih =>
      obtain ⟨first, others⟩ := List.forall_mem_cons.mp silent
      rw [List.foldl_cons, ih others, get?_putEntry_of_ne first]

/-- An entry that leads to a group without replacing it makes it a table. -/
theorem holdsTable_putEntry (below : Setting) (whole : entry.2.isTable = false)
    (leads : LeadsTo group entry) (kept : replaces group entry = false) :
    (below.putEntry entry).HoldsTable group := by
  refine ⟨_, get?_putEntry_self leads, ?_⟩
  have keepsTable : replacesTable entry.2 (KeyPath.ofText entry.1).steps = false := by
    simpa [replaces, show Text.lower (KeyPath.ofText entry.1).head = group from leads] using kept
  cases steps : (KeyPath.ofText entry.1).steps with
  | nil =>
      rw [steps, replacesTable, whole] at keepsTable
      cases keepsTable
  | cons step rest =>
      rw [steps] at keepsTable
      cases step with
      | name s => exact isTable_putAt_name s
      | position index => cases keepsTable

/-- Entries none of which replaces a group make it a table, unless none of them leads
there. -/
theorem holdsTable_or_silent (wholes : ∀ entry ∈ entries, entry.2.isTable = false)
    (kept : ∀ entry ∈ entries, replaces group entry = false) (below : Setting) :
    (entries.foldl putEntry below).HoldsTable group ∨
      ∀ entry ∈ entries, ¬LeadsTo group entry := by
  induction entries generalizing below with
  | nil => exact .inr (List.forall_mem_nil _)
  | cons entry rest ih =>
      obtain ⟨whole, wholes⟩ := List.forall_mem_cons.mp wholes
      obtain ⟨first, others⟩ := List.forall_mem_cons.mp kept
      rcases ih wholes others (below.putEntry entry) with table | silent
      · exact .inl table
      · by_cases leads : LeadsTo group entry
        · obtain ⟨inner, found, table⟩ := holdsTable_putEntry below whole leads first
          exact .inl ⟨inner, (get?_foldl_putEntry_silent silent).trans found, table⟩
        · exact .inr (List.forall_mem_cons.mpr ⟨leads, silent⟩)

theorem HoldsTable.putEntry (table : below.HoldsTable group) (whole : entry.2.isTable = false)
    (kept : replaces group entry = false) : (below.putEntry entry).HoldsTable group := by
  by_cases leads : LeadsTo group entry
  · exact holdsTable_putEntry below whole leads kept
  · unfold HoldsTable
    rw [get?_putEntry_of_ne leads]
    exact table

/-- No entry sets a single item of a group that is a list. -/
def NoItemSet (group : String) (s : Setting) (entries : Table Setting) : Prop :=
  ∀ inner, s.entries.get? group = some inner → inner.isList = true →
    ∀ entry ∈ entries, LeadsTo group entry →
      ∀ index rest, (KeyPath.ofText entry.1).steps ≠ .position index :: rest

theorem NoItemSet.putEntry (noItem : NoItemSet group below (entry :: entries))
    (whole : entry.2.isTable = false) (kept : replaces group entry = false) :
    NoItemSet group (below.putEntry entry) entries := by
  intro inner found list other member
  by_cases leads : LeadsTo group entry
  · obtain ⟨inner', found', table⟩ := holdsTable_putEntry below whole leads kept
    rw [found] at found'
    cases found'
    rw [not_list_of_table table] at list
    cases list
  · rw [get?_putEntry_of_ne leads] at found
    exact noItem inner found list other (List.mem_cons_of_mem _ member)

/-- An entry that replaces a group makes the same of two values of it, the second of which
is a table. -/
theorem get?_putEntry_eq (table : other.HoldsTable group)
    (noItem : NoItemSet group one (entry :: entries)) (whole : entry.2.isTable = false)
    (replaced : replaces group entry = true) :
    (one.putEntry entry).entries.get? group = (other.putEntry entry).entries.get? group := by
  obtain ⟨leads, replacesIt⟩ : LeadsTo group entry ∧
      replacesTable entry.2 (KeyPath.ofText entry.1).steps = true := by
    simpa [replaces, LeadsTo] using replaced
  rw [get?_putEntry_self leads, get?_putEntry_self leads]
  cases steps : (KeyPath.ofText entry.1).steps with
  | nil => rw [putAt, putAt, mergedOnto_of_not_table whole, mergedOnto_of_not_table whole]
  | cons step rest =>
      cases step with
      | name s =>
          rw [steps] at replacesIt
          cases replacesIt
      | position index =>
          obtain ⟨inner, found, isTable⟩ := table
          have noList : ((one.entries.get? group).getD .nothing).isList = false := by
            cases given : one.entries.get? group with
            | none => rfl
            | some inner =>
                by_contra list
                exact noItem inner given (by simpa using list) entry (by simp) leads index rest
                  steps
          have noList' : ((other.entries.get? group).getD .nothing).isList = false := by
            rw [found]
            exact not_list_of_table isTable
          rw [putAt_position_of_not_list noList noList']

theorem get?_eq_or_kept (wholes : ∀ entry ∈ entries, entry.2.isTable = false)
    (table : other.HoldsTable group) (noItem : NoItemSet group one entries) :
    (entries.foldl putEntry one).entries.get? group =
        (entries.foldl putEntry other).entries.get? group ∨
      ∀ entry ∈ entries, replaces group entry = false := by
  induction entries generalizing one other with
  | nil => exact .inr (List.forall_mem_nil _)
  | cons entry rest ih =>
      obtain ⟨whole, wholes⟩ := List.forall_mem_cons.mp wholes
      cases replaced : replaces group entry with
      | true =>
          have same := get?_putEntry_eq table noItem whole replaced
          rw [List.foldl_cons, List.foldl_cons]
          exact .inl (get?_foldl_putEntry_congr same)
      | false =>
          rcases ih wholes (table.putEntry whole replaced) (noItem.putEntry whole replaced) with
            same | kept
          · exact .inl same
          · exact .inr (List.forall_mem_cons.mpr ⟨replaced, kept⟩)

end Setting

namespace SettingKey

variable {key : SettingKey} {group : Option Setting} {value : Setting}

/-- Only in a table something stands under the name of a setting. -/
theorem isTable_of_inside? (found : key.inside? group = some value) :
    ∃ inner, group = some inner ∧ inner.isTable = true := by
  obtain ⟨inner, given, found⟩ := Option.bind_eq_some_iff.mp found
  refine ⟨inner, given, ?_⟩
  cases inner with
  | table origin entries => rfl
  | scalar origin scalar => cases found
  | list origin items => cases found

/-- What entries assign is no table when they are none. -/
theorem isTable_assignsIn {entries : Table Setting}
    (wholes : ∀ entry ∈ entries, entry.2.isTable = false) :
    ∀ assigned ∈ key.assignsIn entries, assigned.2.isTable = false := by
  intro assigned member
  obtain ⟨entry, entryMember, member⟩ := List.mem_flatMap.mp member
  have whole := wholes entry entryMember
  unfold assigns at member
  dsimp only at member
  split at member
  · cases steps : (KeyPath.ofText entry.1).steps with
    | nil =>
        rw [steps, assignsBehind] at member
        cases value : entry.2 with
        | table origin inner =>
            rw [value] at whole
            cases whole
        | scalar | list =>
            rw [value] at member
            cases member
    | cons step rest =>
        rw [steps] at member
        cases step with
        | position index => cases member
        | name s =>
            rw [assignsBehind] at member
            split at member
            · rw [List.mem_singleton.mp member]
              exact whole
            · cases member
  · cases member

theorem assignsIn_of_silent {entries : Table Setting}
    (silent : ∀ entry ∈ entries, ¬Setting.LeadsTo key.group entry) :
    key.assignsIn entries = [] := by
  refine List.flatMap_eq_nil_iff.mpr fun entry member => ?_
  unfold assigns
  exact if_neg (silent entry member)

end SettingKey

end ApiReview
