/-!
# Ordered tables

A table holds named entries in the order in which they were declared, so that
"first" and "later" have a meaning for the text it was read from.  `Table.put`
keeps the position of a name that is already there and replaces its value;
a table built with it never holds a name twice.
-/

namespace ApiReview

/-- Named entries in declaration order. -/
abbrev Table (α : Type) := List (String × α)

namespace Table

variable {α : Type}

/-- The names in declaration order. -/
def names (t : Table α) : List String :=
  t.map Prod.fst

/-- The entry of a name. -/
def get? (t : Table α) (name : String) : Option α :=
  t.lookup name

/-- Is there an entry of this name? -/
def has (t : Table α) (name : String) : Bool :=
  t.any (·.1 == name)

/-- Give a name a value: in its old position if it has one, else at the end. -/
def put : Table α → String → α → Table α
  | [], name, value => [(name, value)]
  | (key, old) :: rest, name, value =>
    if key = name then (key, value) :: rest else (key, old) :: put rest name value

def Distinct (t : Table α) : Prop :=
  t.names.Nodup

theorem mem_names_put {t : Table α} {name other : String} {value : α} :
    other ∈ (t.put name value).names ↔ other = name ∨ other ∈ t.names := by
  induction t with
  | nil => simp [put, names]
  | cons entry rest ih =>
    obtain ⟨key, old⟩ := entry
    simp only [names] at ih
    by_cases h : key = name
    · simp [put, names, h]
    · simp [put, names, h, ih, or_left_comm]

theorem Distinct.put {t : Table α} (h : t.Distinct) (name : String) (value : α) :
    (t.put name value).Distinct := by
  induction t with
  | nil => simp [Distinct, Table.put, names]
  | cons entry rest ih =>
    obtain ⟨key, old⟩ := entry
    simp only [Distinct, names, List.map_cons, List.nodup_cons] at h
    by_cases same : key = name
    · rw [Table.put, if_pos same]
      simpa only [Distinct, names, List.map_cons, List.nodup_cons] using h
    · have absent : key ∉ (Table.put rest name value).names := by
        rw [mem_names_put]
        rintro (rfl | inRest)
        · exact same rfl
        · exact h.1 inRest
      have tail := ih h.2
      simp only [Distinct, names] at tail absent
      simp [Distinct, Table.put, names, same, absent, tail]

/-- The entry just put is the one that is found. -/
theorem get?_put_self (t : Table α) (name : String) (value : α) :
    (t.put name value).get? name = some value := by
  induction t with
  | nil => simp [put, get?]
  | cons entry rest ih =>
    obtain ⟨key, old⟩ := entry
    by_cases h : key = name
    · simp [put, get?, h]
    · have h' : (name == key) = false := by simp [Ne.symm h]
      simpa [put, get?, List.lookup_cons, h, h'] using ih

end Table

end ApiReview
