import ApiReview.Table
import Mathlib.Data.List.Nodup
import Mathlib.Data.Option.Defs

/-!
# Looking up names in tables

In a table whose names are distinct, the entry that is found under a name is the
only one of that name, so looking up and membership say the same.  And what is
listed for an entry can be told from what is listed for the others.  In a table with
the entries in another order a name leads to the same value.
-/

namespace ApiReview

/-- In what is listed for some items, each item for its own, and nothing for two of them,
everything that is owned by one of the items is what is listed for it. -/
theorem filter_flatMap_of_apart {α β : Type} {items : List α} {list : α → List β}
    {owns : α → β → Bool} (owned : ∀ item ∈ items, ∀ b ∈ list item, owns item b = true)
    (apart : items.Pairwise fun one two => ∀ b, owns one b = true → owns two b = false)
    {item : α} (member : item ∈ items) :
    (items.flatMap list).filter (owns item) = list item := by
  induction items with
  | nil => cases member
  | cons first rest ih =>
      obtain ⟨firstOwned, restOwned⟩ := List.forall_mem_cons.mp owned
      obtain ⟨firstApart, restApart⟩ := List.pairwise_cons.mp apart
      rw [List.flatMap_cons, List.filter_append]
      rcases List.mem_cons.mp member with rfl | later
      · have kept : (list item).filter (owns item) = list item :=
          List.filter_eq_self.mpr firstOwned
        have others : (rest.flatMap list).filter (owns item) = [] := by
          refine List.filter_eq_nil_iff.mpr fun b listed own => ?_
          obtain ⟨other, otherMember, inOther⟩ := List.mem_flatMap.mp listed
          have foreign := firstApart other otherMember b own
          rw [restOwned other otherMember b inOther] at foreign
          cases foreign
        rw [kept, others, List.append_nil]
      · have none : (list first).filter (owns item) = [] := by
          refine List.filter_eq_nil_iff.mpr fun b listed => ?_
          rw [firstApart item later b (firstOwned b listed)]
          exact Bool.false_ne_true
        rw [none, List.nil_append, ih restOwned restApart later]

namespace Table

variable {α β : Type} {t : Table α} {name : String}

instance (t : Table α) : Decidable t.Distinct :=
  inferInstanceAs (Decidable t.names.Nodup)

/-- The names of a table are distinct and its values have a property. -/
structure Canonical (property : α → Prop) (t : Table α) : Prop where
  names : t.Distinct
  values : ∀ name a, (name, a) ∈ t → property a

theorem Canonical.nil {property : α → Prop} : Canonical property [] :=
  ⟨List.nodup_nil, by simp⟩

theorem Canonical.put {property : α → Prop} {value : α} (canonical : t.Canonical property)
    (given : property value) : (t.put name value).Canonical property := by
  refine ⟨canonical.names.put name value, ?_⟩
  have values := canonical.values
  clear canonical
  induction t with
  | nil =>
      intro other a member
      obtain ⟨-, rfl⟩ := Prod.mk.inj (List.mem_singleton.mp member)
      exact given
  | cons entry rest ih =>
      obtain ⟨key, old⟩ := entry
      have restValues : ∀ other a, (other, a) ∈ rest → property a := fun other a member =>
        values other a (List.mem_cons_of_mem _ member)
      intro other a member
      unfold Table.put at member
      split at member
      · rcases List.mem_cons.mp member with same | member
        · obtain ⟨-, rfl⟩ := Prod.mk.inj same
          exact given
        · exact restValues other a member
      · rcases List.mem_cons.mp member with same | member
        · obtain ⟨-, rfl⟩ := Prod.mk.inj same
          exact values key a (by simp)
        · exact ih restValues other a member

theorem mem_names {value : α} (entry : (name, value) ∈ t) : name ∈ t.names :=
  List.mem_map_of_mem (f := Prod.fst) entry

theorem exists_of_mem_names (member : name ∈ t.names) : ∃ value, (name, value) ∈ t := by
  obtain ⟨⟨other, value⟩, entry, rfl⟩ := List.mem_map.mp member
  exact ⟨value, entry⟩

theorem has_iff : t.has name = true ↔ name ∈ t.names := by
  simp [has, names]

theorem get?_isSome_iff : (t.get? name).isSome = true ↔ name ∈ t.names := by
  simp [get?, names, List.lookup_isSome_iff]

theorem mem_of_get? {value : α} (found : t.get? name = some value) : (name, value) ∈ t := by
  obtain ⟨before, after, rfl, -⟩ := List.lookup_eq_some_iff.mp found
  simp

theorem Distinct.value_unique (distinct : t.Distinct) {first second : α}
    (one : (name, first) ∈ t) (two : (name, second) ∈ t) : first = second := by
  have equal := List.inj_on_of_nodup_map distinct one two rfl
  exact congrArg Prod.snd equal

theorem Distinct.get?_eq_some_iff (distinct : t.Distinct) {value : α} :
    t.get? name = some value ↔ (name, value) ∈ t := by
  constructor
  · exact mem_of_get?
  · intro entry
    obtain ⟨found, equal⟩ := Option.isSome_iff_exists.mp
      (get?_isSome_iff.mpr (mem_names entry))
    rw [equal, distinct.value_unique (mem_of_get? equal) entry]

/-- In what is listed for the entries of a table, each item under the name of its entry,
the items of one name are those of the only entry of this name. -/
theorem Distinct.filter_flatMap (distinct : t.Distinct) {value : α} (entry : (name, value) ∈ t)
    {list : String × α → List β} {owner : β → Option String}
    (owned : ∀ entry ∈ t, ∀ item ∈ list entry, owner item = some entry.1) :
    (t.flatMap list).filter (owner · == some name) = list (name, value) := by
  have apart : t.Pairwise fun one two => ∀ item, (owner item == some one.1) = true →
      (owner item == some two.1) = false := by
    refine (List.pairwise_map.mp distinct).imp fun differ item own => ?_
    rw [eq_of_beq own]
    simpa using differ
  exact filter_flatMap_of_apart
    (fun entry member item listed => beq_iff_eq.mpr (owned entry member item listed)) apart entry

/-- The order of a table does not matter to what is found in it. -/
theorem Distinct.get?_perm {u : Table α} (distinct : t.Distinct) (perm : t.Perm u)
    (name : String) : t.get? name = u.get? name := by
  have distinct' : u.Distinct := (perm.map Prod.fst).nodup_iff.mp distinct
  refine Option.ext fun value => ?_
  rw [distinct.get?_eq_some_iff, distinct'.get?_eq_some_iff]
  exact perm.mem_iff

theorem get?_put_of_ne {value : α} {other : String} (differ : other ≠ name) :
    (t.put name value).get? other = t.get? other := by
  have differs : (other == name) = false := by simpa using differ
  induction t with
  | nil => simp [put, get?, List.lookup_cons, differs]
  | cons entry rest ih =>
      obtain ⟨key, old⟩ := entry
      by_cases same : key = name
      · subst same
        simp [put, get?, List.lookup_cons, differs]
      · rw [put, if_neg same]
        simp only [get?, List.lookup_cons] at ih ⊢
        rw [ih]

/-- A name that does not stand in the front of a table is looked for behind it. -/
theorem get?_append_of_notMem {front : Table α} (fresh : name ∉ front.names) (t : Table α) :
    Table.get? (front ++ t) name = t.get? name := by
  induction front with
  | nil => rfl
  | cons entry rest ih =>
      obtain ⟨other, old⟩ := entry
      obtain ⟨differ, restFresh⟩ := not_or.mp (mt List.mem_cons.mpr fresh)
      have differs : (name == other) = false := by simpa using differ
      rw [← ih restFresh]
      simp [get?, List.lookup_cons, differs]

theorem put_append_of_notMem {front : Table α} (fresh : name ∉ front.names) (t : Table α)
    (value : α) : Table.put (front ++ t) name value = front ++ t.put name value := by
  induction front with
  | nil => rfl
  | cons entry rest ih =>
      obtain ⟨other, old⟩ := entry
      obtain ⟨differ, restFresh⟩ := not_or.mp (mt List.mem_cons.mpr fresh)
      rw [List.cons_append, put, if_neg (Ne.symm differ), ih restFresh]
      rfl

/-- A new name gets its value at the end. -/
theorem put_of_notMem_names {value : α} (fresh : name ∉ t.names) :
    t.put name value = t ++ [(name, value)] := by
  have behind := put_append_of_notMem fresh [] value
  rwa [List.append_nil] at behind

theorem get?_map (f : α → β) :
    Table.get? (t.map fun (other, value) => (other, f value)) name = (t.get? name).map f := by
  induction t with
  | nil => rfl
  | cons entry rest ih =>
      obtain ⟨other, value⟩ := entry
      simp only [get?, List.map_cons, List.lookup_cons] at ih ⊢
      by_cases same : name == other
      · simp [same]
      · simpa [same] using ih

section Reordered

variable {related : α → α → Prop} {u : Table α}

/-- A table with its entries in another order and a related value under each
name: the first entry can stand anywhere among the others. -/
inductive Reordered (related : α → α → Prop) : Table α → Table α → Prop
  | nil : Reordered related [] []
  | cons {name : String} {a b : α} {rest before after : Table α} (pair : related a b)
      (others : Reordered related rest (before ++ after)) :
      Reordered related ((name, a) :: rest) (before ++ (name, b) :: after)

/-- Entries may stand in any order. -/
theorem Reordered.of_perm (perm : t.Perm u) (same : ∀ name a, (name, a) ∈ t → related a a) :
    Reordered related t u := by
  induction t generalizing u with
  | nil =>
      rw [List.nil_perm.mp perm]
      exact .nil
  | cons entry rest ih =>
      obtain ⟨name, a⟩ := entry
      obtain ⟨before, after, rfl⟩ := List.append_of_mem (perm.subset List.mem_cons_self)
      have others : rest.Perm (before ++ after) := (perm.trans List.perm_middle).cons_inv
      exact .cons (same name a List.mem_cons_self)
        (ih others fun other b member => same other b (List.mem_cons_of_mem _ member))

theorem Reordered.exists_entry_congr {one two : String × α → Prop}
    (reordered : Reordered related t u)
    (congr : ∀ name a b, (name, a) ∈ t → related a b → (one (name, a) ↔ two (name, b))) :
    (∃ entry ∈ t, one entry) ↔ ∃ entry ∈ u, two entry := by
  induction reordered with
  | nil => simp
  | @cons name a b rest before after pair others ih =>
      have head := congr name a b (by simp) pair
      have later := ih fun name a b member => congr name a b (List.mem_cons_of_mem _ member)
      rw [List.exists_mem_cons_iff, head, later]
      simp only [List.mem_append, List.mem_cons, or_and_right, exists_or, exists_eq_left]
      exact or_left_comm

theorem Reordered.flatMap_perm {one two : String × α → List β}
    (reordered : Reordered related t u)
    (congr : ∀ name a b, (name, a) ∈ t → related a b → (one (name, a)).Perm (two (name, b))) :
    (t.flatMap one).Perm (u.flatMap two) := by
  induction reordered with
  | nil => exact .nil
  | @cons name a b rest before after pair others ih =>
      have moved : (two (name, b) ++ (before ++ after).flatMap two).Perm
          ((before ++ (name, b) :: after).flatMap two) := by
        rw [List.flatMap_append, List.flatMap_append, List.flatMap_cons]
        simp only [← List.append_assoc]
        exact List.perm_append_comm.append_right _
      have head := congr name a b (by simp) pair
      have later := ih fun name a b member => congr name a b (List.mem_cons_of_mem _ member)
      rw [List.flatMap_cons]
      exact (head.append later).trans moved

theorem Reordered.names_perm (reordered : Reordered related t u) : t.names.Perm u.names := by
  have single : ∀ v : Table α, v.names = v.flatMap fun entry => [entry.1] :=
    fun v => List.map_eq_flatMap
  rw [single, single]
  exact reordered.flatMap_perm fun _ _ _ _ _ => .refl _

theorem Reordered.exists_of_mem {a : α} (reordered : Reordered related t u)
    (member : (name, a) ∈ t) : ∃ b, (name, b) ∈ u ∧ related a b := by
  induction reordered with
  | nil => cases member
  | @cons other c b rest before after pair others ih =>
      rcases List.mem_cons.mp member with same | later
      · obtain ⟨rfl, rfl⟩ := Prod.mk.inj same
        exact ⟨b, by simp, pair⟩
      · obtain ⟨found, inside, pair'⟩ := ih later
        refine ⟨found, ?_, pair'⟩
        rcases List.mem_append.mp inside with front | behind
        · exact List.mem_append_left _ front
        · exact List.mem_append_right _ (List.mem_cons_of_mem _ behind)

/-- In a reordered table a name leads to a related value, if it leads to any. -/
theorem Reordered.get? (reordered : Reordered related t u) (distinct : t.Distinct)
    (name : String) : Option.Rel related (t.get? name) (u.get? name) := by
  have distinct' : u.Distinct := reordered.names_perm.nodup_iff.mp distinct
  cases found : t.get? name with
  | none =>
      have absent : name ∉ u.names := by
        rw [← reordered.names_perm.mem_iff, ← get?_isSome_iff, found]
        exact Bool.false_ne_true
      have missing : u.get? name = none := by
        rw [← Option.not_isSome_iff_eq_none, get?_isSome_iff]
        exact absent
      rw [missing]
      exact .none
  | some a =>
      obtain ⟨b, inside, pair⟩ := reordered.exists_of_mem (mem_of_get? found)
      rw [distinct'.get?_eq_some_iff.mpr inside]
      exact .some pair

end Reordered

end Table

end ApiReview
