import ApiReview.Proofs.Table
import ApiReview.Reading.FromUntyped

/-!
# What readers yield

A property of everything that a reader yields follows from the properties of
what it reads inside: lists and tables pass on a property of their values, tables
hold a name once, and a record keeps a property that its defaults have and that
each of its fields keeps.

Untyped values, JSON texts and YAML texts agree on this, so a property of a type is
tracked through its reading once for all of them.
-/

namespace ApiReview

variable {α β σ : Type} {inputs : Untyped → Prop} {property weaker : α → Prop}
  {keeps : σ → Prop} {read : FromUntyped α}

/-- What stands directly inside of some inputs is one of them. -/
structure Untyped.Closed (inputs : Untyped → Prop) : Prop where
  items : ∀ items, inputs (.sequence items) → ∀ v ∈ items, inputs v
  values : ∀ entries, inputs (.mapping entries) → ∀ key v, (key, v) ∈ entries → inputs v

/-- Everything that a reader yields from some inputs has a property. -/
def FromUntyped.Yields (inputs : Untyped → Prop) (property : α → Prop)
    (read : FromUntyped α) : Prop :=
  ∀ v a, inputs v → read v = .ok a → property a

/-- A change of a record keeps a property of it. -/
def Preserves (keeps : σ → Prop) (change : σ → σ) : Prop :=
  ∀ s, keeps s → keeps (change s)

theorem Except.map_eq_ok {ε β : Type} {f : α → β} {result : Except ε α} {b : β}
    (ok : result.map f = .ok b) : ∃ a, result = .ok a ∧ f a = b := by
  cases result with
  | error e => cases ok
  | ok a =>
      cases ok
      exact ⟨a, rfl, rfl⟩

theorem Except.bind_eq_ok {ε β : Type} {f : α → Except ε β} {result : Except ε α} {b : β}
    (ok : result >>= f = .ok b) : ∃ a, result = .ok a ∧ f a = .ok b := by
  cases result with
  | error e => cases ok
  | ok a => exact ⟨a, rfl, ok⟩

theorem Except.bind_eq_ok_iff {ε α β : Type} {f : α → Except ε β} {result : Except ε α} {b : β} :
    result >>= f = .ok b ↔ ∃ a, result = .ok a ∧ f a = .ok b := by
  constructor
  · exact Except.bind_eq_ok
  · rintro ⟨a, rfl, ok⟩
    exact ok

theorem Except.mapError_eq_ok_iff {ε ε' α : Type} {f : ε → ε'} {result : Except ε α} {a : α} :
    result.mapError f = .ok a ↔ result = .ok a := by
  cases result with
  | error e => simp [Except.mapError]
  | ok b => simp [Except.mapError]

theorem Except.eq_ok_of_toOption {ε α : Type} {result : Except ε α} {a : α}
    (found : result.toOption = some a) : result = .ok a := by
  cases result with
  | error e => cases found
  | ok b =>
      cases found
      rfl

/-- The results of a list are those of its items. -/
theorem Except.mem_of_mapM {ε β : Type} {f : α → Except ε β} {items : List α}
    {results : List β} (ok : items.mapM f = .ok results) {result : β} :
    result ∈ results ↔ ∃ item ∈ items, f item = .ok result := by
  induction items generalizing results with
  | nil =>
      cases ok
      simp
  | cons item rest ih =>
      rw [List.mapM_cons] at ok
      obtain ⟨first, firstOk, ok⟩ := Except.bind_eq_ok ok
      obtain ⟨others, othersOk, ok⟩ := Except.bind_eq_ok ok
      cases ok
      rw [List.mem_cons, ih othersOk, List.exists_mem_cons_iff, firstOk]
      simp [eq_comm]

/-- A list has results when each of its items has one. -/
theorem Except.exists_mapM_eq_ok_iff {ε β : Type} {f : α → Except ε β} {items : List α} :
    (∃ results, items.mapM f = .ok results) ↔ ∀ item ∈ items, ∃ result, f item = .ok result := by
  induction items with
  | nil => exact iff_of_true ⟨[], rfl⟩ (by simp)
  | cons item rest ih =>
      rw [List.forall_mem_cons, ← ih, List.mapM_cons]
      constructor
      · rintro ⟨results, ok⟩
        obtain ⟨first, firstOk, ok⟩ := Except.bind_eq_ok ok
        obtain ⟨others, othersOk, -⟩ := Except.bind_eq_ok ok
        exact ⟨⟨first, firstOk⟩, others, othersOk⟩
      · rintro ⟨⟨first, firstOk⟩, others, othersOk⟩
        rw [firstOk, othersOk]
        exact ⟨first :: others, rfl⟩

namespace FromUntyped

theorem yields_true : Yields inputs (fun _ => True) read :=
  fun _ _ _ _ => trivial

theorem Yields.mono (yields : Yields inputs property read) (imp : ∀ a, property a → weaker a) :
    Yields inputs weaker read :=
  fun v a input ok => imp a (yields v a input ok)

theorem Yields.map {f : α → β} {result : β → Prop}
    (yields : Yields inputs (fun a => result (f a)) read) :
    Yields inputs result fun v => (read v).map f := by
  intro v b input ok
  obtain ⟨a, found, rfl⟩ := Except.map_eq_ok ok
  exact yields v a input found

theorem Yields.optional (yields : Yields inputs property read) :
    Yields inputs (fun value => ∀ a, value = some a → property a) (optional read) := by
  intro v value input ok a given
  subst given
  cases v with
  | null => cases ok
  | _ =>
      obtain ⟨b, found, same⟩ := Except.map_eq_ok ok
      cases same
      exact yields _ _ input found

theorem Yields.list (closed : Untyped.Closed inputs) (yields : Yields inputs property read) :
    Yields inputs (fun items => ∀ a ∈ items, property a) (list read) := by
  intro v values input ok
  cases v with
  | sequence items =>
      intro a member
      obtain ⟨item, itemMember, itemOk⟩ := (Except.mem_of_mapM ok).mp member
      exact yields item a (closed.items items input item itemMember) itemOk
  | _ => cases ok

theorem putEntries_canonical (yields : Yields inputs property read)
    {entries : List (Untyped × Untyped)} (values : ∀ key v, (key, v) ∈ entries → inputs v)
    {before after : Table α} (ok : putEntries read entries before = .ok after)
    (canonical : before.Canonical property) : after.Canonical property := by
  induction entries generalizing before with
  | nil =>
      cases ok
      exact canonical
  | cons entry rest ih =>
      obtain ⟨key, v⟩ := entry
      obtain ⟨name, -, ok⟩ := Except.bind_eq_ok ok
      obtain ⟨value, valueOk, ok⟩ := Except.bind_eq_ok ok
      have given := yields v value (values key v (by simp)) valueOk
      exact ih (fun other w member => values other w (List.mem_cons_of_mem _ member)) ok
        (canonical.put given)

theorem Yields.table (closed : Untyped.Closed inputs) (yields : Yields inputs property read) :
    Yields inputs (Table.Canonical property) (table read) := by
  intro v t input ok
  cases v with
  | mapping entries => exact putEntries_canonical yields (closed.values entries input) ok .nil
  | _ => cases ok

section Record

variable {fields : List (Field FromUntyped σ)} {s after : σ}

theorem readEntries_keeps (all : ∀ field ∈ fields, Yields inputs (Preserves keeps) field.read)
    {entries : List (Untyped × Untyped)} (values : ∀ key v, (key, v) ∈ entries → inputs v)
    {given names : List String} (start : keeps s)
    (ok : readEntries fields entries given s = .ok (names, after)) : keeps after := by
  induction entries generalizing given s with
  | nil =>
      cases ok
      exact start
  | cons entry rest ih =>
      obtain ⟨key, v⟩ := entry
      have restValues : ∀ other w, (other, w) ∈ rest → inputs w := fun other w member =>
        values other w (List.mem_cons_of_mem _ member)
      obtain ⟨found, foundOk, ok⟩ := Except.bind_eq_ok ok
      cases found with
      | none => exact ih restValues start ok
      | some field =>
          have member : field ∈ fields := by
            unfold fieldOf at foundOk
            split at foundOk
            · exact List.mem_of_find?_eq_some (Except.ok.inj foundOk)
            · split at foundOk
              · cases foundOk
              · exact List.mem_of_getElem? (Except.ok.inj foundOk)
            · cases foundOk
          dsimp only at ok
          split at ok
          · cases ok
          · obtain ⟨change, changeOk, ok⟩ := Except.bind_eq_ok ok
            have input := values key v (by simp)
            exact ih restValues (all field member v change input changeOk s start) ok

theorem readItems_keeps {wanted : String} {total position : Nat} {items : List Untyped}
    (all : ∀ field ∈ fields, Yields inputs (Preserves keeps) field.read)
    (values : ∀ v ∈ items, inputs v) (start : keeps s)
    (ok : readItems wanted total fields items position s = .ok after) : keeps after := by
  induction fields generalizing items position s with
  | nil =>
      cases items with
      | nil =>
          cases ok
          exact start
      | cons item rest => cases ok
  | cons field others ih =>
      have rest := fun field member => all field (List.mem_cons_of_mem _ member)
      cases items with
      | nil =>
          unfold readItems at ok
          split at ok
          · cases ok
          · exact ih rest values start ok
      | cons item items =>
          obtain ⟨input, restValues⟩ := List.forall_mem_cons.mp values
          obtain ⟨change, changeOk, ok⟩ := Except.bind_eq_ok ok
          exact ih rest restValues (all field (by simp) item change input changeOk s start) ok

/-- A record keeps what its fields keep. -/
theorem yields_record (closed : Untyped.Closed inputs) {name : String} (start : keeps s)
    (all : ∀ field ∈ fields, Yields inputs (Preserves keeps) field.read) :
    Yields inputs keeps (record name fields s) := by
  intro v after input ok
  cases v with
  | mapping entries =>
      obtain ⟨⟨given, result⟩, resultOk, ok⟩ := Except.bind_eq_ok ok
      have kept := readEntries_keeps all (closed.values entries input) start resultOk
      dsimp only at ok
      split at ok
      · cases ok
      · cases ok
        exact kept
  | sequence items => exact readItems_keeps all (closed.items items input) start ok
  | _ => cases ok

end Record

end FromUntyped

/-- A way to say what holds of everything that the readings of a format give, and to take it
over from the readings inside of them.  What is decided on as a whole was read as an untyped
value of some kind. -/
structure Format.Tracking (R : Type → Type) [Format R] where
  Gives {α : Type} : (α → Prop) → R α → Prop
  inputs : Untyped → Prop
  closed : Untyped.Closed inputs
  any {α : Type} (read : R α) : Gives (fun _ => True) read
  mono {α : Type} {property weaker : α → Prop} {read : R α} :
    Gives property read → (∀ a, property a → weaker a) → Gives weaker read
  map {α β : Type} {result : β → Prop} {f : α → β} {read : R α} :
    Gives (fun a => result (f a)) read → Gives result (Format.map f read)
  delay {α : Type} {property : α → Prop} {read : Unit → R α} :
    Gives property (read ()) → Gives property (Format.delay read)
  optional {α : Type} {property : α → Prop} {read : R α} : Gives property read →
    Gives (fun value => ∀ a, value = some a → property a) (Format.optional read)
  list {α : Type} {property : α → Prop} {read : R α} : Gives property read →
    Gives (fun items => ∀ a ∈ items, property a) (Format.list read)
  table {α : Type} {property : α → Prop} {read : R α} : Gives property read →
    Gives (Table.Canonical property) (Format.table read)
  record {σ : Type} {keeps : σ → Prop} {name : String} {fields : List (Field R σ)} {start : σ} :
    keeps start → (∀ field ∈ fields, Gives (Preserves keeps) field.read) →
    Gives keeps (Format.record name fields start)
  decide {α : Type} {property : α → Prop} {choose : Untyped → Except Complaint α} :
    FromUntyped.Yields inputs property choose → Gives property (Format.decide choose)

/-- Untyped values are read from untyped values that are closed. -/
def FromUntyped.tracking (closed : Untyped.Closed inputs) : Format.Tracking FromUntyped where
  Gives := Yields inputs
  inputs := inputs
  closed := closed
  any _ := yields_true
  mono := Yields.mono
  map := Yields.map
  delay := id
  optional := Yields.optional
  list := Yields.list closed
  table := Yields.table closed
  record := yields_record closed
  decide := id

namespace Format.Tracking

variable {R : Type → Type} [Format R] (k : Tracking R) {name : String} {read : R α}

theorem keeps_map {set : α → σ → σ} (gives : k.Gives property read)
    (kept : ∀ a s, property a → keeps s → keeps (set a s)) :
    k.Gives (Preserves keeps) (Format.map set read) :=
  k.map (k.mono gives fun a given s => kept a s given)

theorem keeps_defaulted {set : α → σ → σ} (gives : k.Gives property read)
    (kept : ∀ a s, property a → keeps s → keeps (set a s)) :
    k.Gives (Preserves keeps) (Field.defaulted name read set).read :=
  k.keeps_map gives kept

theorem keeps_optional {set : Option α → σ → σ} (gives : k.Gives property read)
    (kept : ∀ value s, (∀ a, value = some a → property a) → keeps s → keeps (set value s)) :
    k.Gives (Preserves keeps) (Field.optional name read set).read :=
  k.keeps_map (k.optional gives) kept

/-- A field that a property does not depend on. -/
theorem keeps_any {set : α → σ → σ} (kept : ∀ a s, keeps s → keeps (set a s)) :
    k.Gives (Preserves keeps) (Format.map set read) :=
  k.keeps_map (k.any read) fun a s _ => kept a s

end Format.Tracking

namespace Field

variable {R : Type → Type} [Format R] {name : String} {read : R α}

@[simp]
theorem name_defaulted {set : α → σ → σ} : (defaulted name read set).name = name :=
  rfl

@[simp]
theorem name_optional {set : Option α → σ → σ} : (optional name read set).name = name :=
  rfl

@[simp]
theorem name_needed {set : α → σ → σ} : (needed name read set).name = name :=
  rfl

end Field

end ApiReview
