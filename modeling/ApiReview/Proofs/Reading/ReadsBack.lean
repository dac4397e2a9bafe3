import ApiReview.Document.Loading
import ApiReview.Document.Printing
import ApiReview.Proofs.Reading.JsonInputs

/-!
# Reading back what was printed

A reader gives a printed value back when it reads every part of it back: the
items of a list, the values of a table with distinct names, and the fields of a
record, which are printed in their order or left out.  Of several shapes the
first one that fits counts, so none that is tried earlier may fit.
-/

namespace ApiReview

open Json (Value presentField filledField)

variable {α σ : Type} {read : Nat → FromUntyped α} {print : α → Value} {a : α}

/-- A printed value is read back, whatever bound for the depth the reader gets, as
long as it suffices. -/
def ReadsBack (read : Nat → FromUntyped α) (print : α → Value) (a : α) : Prop :=
  ∀ depth, (Untyped.ofJson (print a)).depth < depth →
    read depth (Untyped.ofJson (print a)) = .ok a

/-- A printed value is read back and told apart from an absent one. -/
structure ReadsBackGiven (read : Nat → FromUntyped α) (print : α → Value) (a : α) : Prop where
  back : ReadsBack read print a
  present : print a ≠ .null

theorem Except.mapM_map_eq_ok {ε β : Type} {f : β → Except ε α} {g : α → β} {items : List α}
    (all : ∀ a ∈ items, f (g a) = .ok a) : (items.map g).mapM f = .ok items := by
  induction items with
  | nil => rfl
  | cons a rest ih =>
      obtain ⟨first, others⟩ := List.forall_mem_cons.mp all
      rw [List.map_cons, List.mapM_cons, first, ih others]
      rfl

theorem FromUntyped.putEntries_ofJson {read : FromUntyped α} {t before : Table α}
    (all : ∀ name a, (name, a) ∈ t → read (.ofJson (print a)) = .ok a)
    (names : Table.Distinct (before ++ t)) :
    putEntries read (Untyped.ofJsonMembers (t.map fun (name, a) => (name, print a))) before =
      .ok (before ++ t) := by
  induction t generalizing before with
  | nil => rw [List.append_nil]; rfl
  | cons entry rest ih =>
      obtain ⟨name, a⟩ := entry
      have value : read (.ofJson (print a)) = .ok a := all name a (by simp)
      have fresh : name ∉ before.names := by
        intro member
        rw [Table.Distinct, Table.names, List.map_append] at names
        exact (List.disjoint_of_nodup_append names) member (by simp)
      rw [List.append_cons, ← Table.put_of_notMem_names fresh] at names ⊢
      rw [← ih (fun other b member => all other b (List.mem_cons_of_mem _ member)) names]
      simp only [List.map_cons, Untyped.ofJsonMembers, putEntries, text, value]
      rfl

namespace ReadsBack

theorem optional {value : Option α}
    (given : ∀ a, value = some a → ReadsBackGiven read print a) :
    ReadsBack (fun depth => FromUntyped.optional (read depth)) (Value.ofOption print) value := by
  intro depth deep
  cases value with
  | none => rfl
  | some a =>
      obtain ⟨back, present⟩ := given a rfl
      have found := back depth deep
      change FromUntyped.optional (read depth) (.ofJson (print a)) = _
      rw [FromUntyped.optional_of_ne_null present, found]
      rfl

theorem list {items : List α} (all : ∀ a ∈ items, ReadsBack read print a) :
    ReadsBack (fun depth => FromUntyped.list (read depth)) (Value.ofList print) items := by
  intro depth deep
  have inside : ∀ a ∈ items, read depth (.ofJson (print a)) = .ok a := by
    intro a member
    have shallow := Untyped.depth_item_lt (List.mem_map_of_mem (f := print) member)
    exact all a member depth (Nat.lt_trans shallow deep)
  change (Untyped.ofJsonItems (items.map print)).mapM (read depth) = .ok items
  rw [Untyped.ofJsonItems_eq, List.map_map]
  exact Except.mapM_map_eq_ok inside

theorem table {t : Table α} (canonical : t.Canonical (ReadsBack read print)) :
    ReadsBack (fun depth => FromUntyped.table (read depth)) (Value.ofTable print) t := by
  intro depth deep
  refine FromUntyped.putEntries_ofJson (fun name a member => ?_) canonical.names
  have shallow := Untyped.depth_member_lt
    (List.mem_map_of_mem (f := fun (name, a) => (name, print a)) member)
  exact canonical.values name a member depth (Nat.lt_trans shallow deep)

end ReadsBack

section Scalars

theorem readsBack_text (s : String) :
    ReadsBackGiven (fun _ => FromUntyped.text) Value.string s :=
  ⟨fun _ _ => rfl, nofun⟩

theorem readsBack_flag (b : Bool) : ReadsBackGiven (fun _ => FromUntyped.flag) Value.bool b :=
  ⟨fun _ _ => rfl, nofun⟩

theorem readsBack_count (n : Nat) :
    ReadsBackGiven (fun _ => FromUntyped.count) Value.ofNat n := by
  refine ⟨fun _ _ => ?_, nofun⟩
  rw [Value.ofNat, Untyped.ofJson, FromUntyped.count, if_neg (by omega), Int.toNat_natCast]

theorem readsBack_number {x : Binary64} (finite : ∃ y, x = .finite y) :
    ReadsBackGiven (fun _ => FromUntyped.number) Value.ofBinary64 x := by
  obtain ⟨y, rfl⟩ := finite
  exact ⟨fun _ _ => rfl, nofun⟩

theorem readsBack_texts (texts : List String) :
    ReadsBack (fun _ => FromUntyped.list FromUntyped.text) Value.ofTexts texts :=
  .list fun s _ => (readsBack_text s).back

/-- JSON values without repeated names are read back at every level. -/
theorem readsBack_json {v : Value} (distinct : v.Distinct) :
    ReadsBack (fun _ => FromUntyped.json) id v := by
  induction distinct with
  | @array items inside ih =>
      intro depth deep
      have printed : Value.ofList id items = .array items := by rw [Value.ofList, List.map_id]
      have found := ReadsBack.list ih depth (by rwa [printed])
      rw [printed] at found
      exact (FromUntyped.json_sequence _).trans (congrArg (Except.map Value.array) found)
  | @object members names inside ih =>
      intro depth deep
      have printed : Value.ofTable id members = .object members := by
        rw [Value.ofTable]
        exact congrArg Value.object (List.map_id members)
      have found := ReadsBack.table ⟨names, ih⟩ depth (by rwa [printed])
      rw [printed] at found
      exact (FromUntyped.json_mapping _).trans (congrArg (Except.map Value.object) found)
  | number n =>
      intro _ _
      cases n <;> rfl
  | _ => exact fun _ _ => rfl

end Scalars

section Shapes

variable {union : String} {shape : FromUntyped α} {shapes : List (FromUntyped α)} {u : Untyped}

theorem Untyped.firstShape_of_ok (ok : shape u = .ok a) :
    firstShape union (shape :: shapes) u = .ok a := by
  simp [firstShape, ok, Except.toOption]

theorem Untyped.firstShape_of_error (error : ∃ complaint, shape u = .error complaint) :
    firstShape union (shape :: shapes) u = firstShape union shapes u := by
  obtain ⟨complaint, error⟩ := error
  simp [firstShape, error, Except.toOption]

end Shapes

namespace Field

/-- Reading members along some fields leads from one record to another one: each
field has the next member, or is left out. -/
inductive Reads (depth : Nat) : List (Field FromUntyped σ) → Table Value → σ → σ → Prop where
  | nil {s : σ} : Reads depth [] [] s s
  | given {field : Field FromUntyped σ} {fields : List (Field FromUntyped σ)} {v : Value}
      {members : Table Value} {change : σ → σ} {s t : σ}
      (found : (Untyped.ofJson v).depth < depth → field.read (.ofJson v) = .ok change)
      (rest : Reads depth fields members (change s) t) :
      Reads depth (field :: fields) ((field.name, v) :: members) s t
  | leftOut {field : Field FromUntyped σ} {fields : List (Field FromUntyped σ)}
      {members : Table Value} {s t : σ} (free : field.required = false)
      (rest : Reads depth fields members s t) : Reads depth (field :: fields) members s t

namespace Reads

variable {depth : Nat} {fields : List (Field FromUntyped σ)} {members : Table Value} {s t : σ}

theorem mem_names (reads : Reads depth fields members s t) {field : Field FromUntyped σ}
    (member : field ∈ fields) (required : field.required = true) : field.name ∈ members.names := by
  induction reads with
  | nil => cases member
  | given found rest ih =>
      rcases List.mem_cons.mp member with rfl | member
      · exact List.mem_cons_self
      · exact List.mem_cons_of_mem _ (ih member)
  | leftOut free rest ih =>
      rcases List.mem_cons.mp member with rfl | member
      · rw [free] at required
        cases required
      · exact ih member

theorem find?_name {all : List (Field FromUntyped σ)} (names : (all.map Field.name).Nodup)
    {field : Field FromUntyped σ} (member : field ∈ all) :
    all.find? (·.name == field.name) = some field := by
  have isSome : (all.find? (·.name == field.name)).isSome = true :=
    List.find?_isSome.mpr ⟨field, member, beq_self_eq_true field.name⟩
  obtain ⟨found, equal⟩ := Option.isSome_iff_exists.mp isSome
  have same : found.name = field.name := by simpa using List.find?_some equal
  rw [equal, List.inj_on_of_nodup_map names (List.mem_of_find?_eq_some equal) member same]

/-- Induction along the fields; those that are still to come have not been given. -/
theorem readEntries (reads : Reads depth fields members s t)
    {all : List (Field FromUntyped σ)} (allNames : (all.map Field.name).Nodup)
    (listed : fields ⊆ all) (names : (fields.map Field.name).Nodup) {given : List String}
    (fresh : ∀ field ∈ fields, field.name ∉ given)
    (deep : ∀ name v, (name, v) ∈ members → (Untyped.ofJson v).depth < depth) :
    FromUntyped.readEntries all (Untyped.ofJsonMembers members) given s =
      .ok (members.names.reverse ++ given, t) := by
  induction reads generalizing given with
  | nil => rfl
  | @given field fields v members change s t found rest ih =>
      obtain ⟨isListed, restListed⟩ := List.cons_subset.mp listed
      obtain ⟨differ, restNames⟩ := List.nodup_cons.mp names
      obtain ⟨isFresh, restFresh⟩ := List.forall_mem_cons.mp fresh
      have later : FromUntyped.readEntries all (Untyped.ofJsonMembers members)
          (field.name :: given) (change s) =
          .ok (members.names.reverse ++ field.name :: given, t) := by
        refine ih restListed restNames (fun other member => ?_) fun name w member =>
          deep name w (List.mem_cons_of_mem _ member)
        refine List.not_mem_cons_of_ne_of_not_mem (fun same => ?_) (restFresh other member)
        exact differ (same ▸ List.mem_map_of_mem (f := Field.name) member)
      rw [Untyped.ofJsonMembers, FromUntyped.readEntries, FromUntyped.fieldOf,
        find?_name allNames isListed]
      simp only [bind, Except.bind, List.contains_eq_mem, isFresh, decide_false,
        found (deep field.name v (by simp)), later]
      simp [Table.names]
  | leftOut free rest ih =>
      exact ih (List.cons_subset.mp listed).2 (List.nodup_cons.mp names).2
        (List.forall_mem_cons.mp fresh).2 deep

/-- An object that gives a record its fields is read as that record. -/
theorem record (reads : Reads depth fields members s t) (name : String)
    (names : (fields.map Field.name).Nodup)
    (deep : (Untyped.ofJson (.object members)).depth ≤ depth) :
    FromUntyped.record name fields s (.ofJson (.object members)) = .ok t := by
  have entries : FromUntyped.readEntries fields (Untyped.ofJsonMembers members) [] s =
      .ok (members.names.reverse ++ [], t) := by
    refine reads.readEntries names (List.Subset.refl _) names (by simp) fun name v member => ?_
    exact Nat.lt_of_lt_of_le (Untyped.depth_member_lt member) deep
  have complete : Field.missing? fields (members.names.reverse ++ []) = none := by
    rw [Field.missing?, Option.map_eq_none_iff, List.find?_eq_none]
    intro field member
    cases required : field.required with
    | false => simp
    | true => simpa using reads.mem_names member required
  rw [Untyped.ofJson, FromUntyped.record, entries]
  simp only [bind, Except.bind, complete]

section Members

variable {name : String} {set : α → σ → σ}

/-- A field that is printed whatever it holds. -/
theorem field {required : Bool} (back : ReadsBack read print a)
    (rest : Reads depth fields members (set a s) t) :
    Reads depth (⟨name, required, Format.map set (read depth)⟩ :: fields)
      ((name, print a) :: members) s t := by
  refine .given (fun deep => ?_) rest
  exact congrArg (Except.map set) (back depth deep)

/-- A field that is printed as null when it is absent. -/
theorem optional {value : Option α} {set : Option α → σ → σ}
    (given : ∀ a, value = some a → ReadsBackGiven read print a)
    (rest : Reads depth fields members (set value s) t) :
    Reads depth (Field.optional name (read depth) set :: fields)
      ((name, .ofOption print value) :: members) s t :=
  field (.optional given) rest

/-- A field that is left out when it is absent. -/
theorem present {value : Option α} {set : Option α → σ → σ}
    (given : ∀ a, value = some a → ReadsBackGiven read print a)
    (rest : Reads depth fields members (set value s) t) (same : set none s = s := by rfl) :
    Reads depth (Field.optional name (read depth) set :: fields)
      (presentField name print value ++ members) s t := by
  cases value with
  | none => exact .leftOut rfl (same ▸ rest)
  | some a => exact optional given rest

/-- A field that is left out when it is empty. -/
theorem filled {read : Nat → FromUntyped (List α)} {print : List α → Value} {items : List α}
    {set : List α → σ → σ} (back : ReadsBack read print items)
    (rest : Reads depth fields members (set items s) t) (same : set [] s = s := by rfl) :
    Reads depth (Field.defaulted name (read depth) set :: fields)
      (filledField name print items ++ members) s t := by
  cases items with
  | nil => exact .leftOut rfl (same ▸ rest)
  | cons item items => exact field back rest

end Members

end Reads

end Field

end ApiReview
