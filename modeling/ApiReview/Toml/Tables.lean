import ApiReview.Toml.Value

/-!
# Building tables

The lines of a TOML text build up one table.  A line gives a value to a path of
names, opens the table at a path, or opens a further element of the list of
tables at a path.  Nothing can be defined twice: a value is never replaced, a
table is opened once, and a table that one line opened is not added to by dotted
names of another.  What stands in the way of a line is remembered by how each
table came to be.
-/

namespace ApiReview.Toml

/-- How a table came to be. -/
inductive Standing where
  /-- A line or a pair of braces opened it. -/
  | opened
  /-- A line opened a table inside of it. -/
  | implied
  /-- It is part of the dotted name of a value. -/
  | dotted
deriving DecidableEq, Repr

/-- What a name stands for while a table is built. -/
inductive Item where
  | value (v : Value)
  | table (standing : Standing) (entries : List (String × Item))
  /-- A list of tables; the last element is the open one. -/
  | tables (earlier : List (List (String × Item))) (last : List (String × Item))

/-- A table that is built. -/
structure Body where
  standing : Standing := .opened
  entries : Table Item := []

namespace Body

/-- Change the table that a path leads to, where missing tables come to be as
given.  Dotted names do not lead into opened tables. -/
def within (creating : Standing) (change : Body → Option Body) :
    List String → Body → Option Body
  | [], b => change b
  | name :: path, b =>
    match b.entries.get? name with
    | none => do
      let inner ← within creating change path ⟨creating, []⟩
      return { b with entries := b.entries.put name (.table inner.standing inner.entries) }
    | some (.value _) => none
    | some (.table standing entries) => do
      if creating = .dotted ∧ standing = .opened then none
      let inner ← within creating change path ⟨standing, entries⟩
      return { b with entries := b.entries.put name (.table inner.standing inner.entries) }
    | some (.tables earlier last) => do
      let inner ← within creating change path ⟨.opened, last⟩
      return { b with entries := b.entries.put name (.tables earlier inner.entries) }

/-- Open the table of a name, which may only be there by implication. -/
def openTable (name : String) (b : Body) : Option Body :=
  match b.entries.get? name with
  | none => some { b with entries := b.entries.put name (.table .opened []) }
  | some (.table .implied entries) =>
    some { b with entries := b.entries.put name (.table .opened entries) }
  | some _ => none

/-- Open a further element of the list of tables of a name. -/
def openElement (name : String) (b : Body) : Option Body :=
  match b.entries.get? name with
  | none => some { b with entries := b.entries.put name (.tables [] []) }
  | some (.tables earlier last) =>
    some { b with entries := b.entries.put name (.tables (earlier ++ [last]) []) }
  | some _ => none

/-- Give a value to a name that has none. -/
def define (name : String) (value : Value) (b : Body) : Option Body :=
  match b.entries.get? name with
  | none => some { b with entries := b.entries.put name (.value value) }
  | some _ => none

/-- Give a value to a path of names, the last of which is given apart. -/
def assign (path : List String) (name : String) (value : Value) : Body → Option Body :=
  within .dotted
    (fun b => if b.standing = .dotted ↔ path ≠ [] then define name value b else none) path

end Body

mutual

def Item.toValue : Item → Value
  | .value v => v
  | .table _ entries => .table (entriesToValues entries)
  | .tables earlier last =>
    .list (tablesToValues earlier ++ [.table (entriesToValues last)])

def entriesToValues : List (String × Item) → List (String × Value)
  | [] => []
  | (name, item) :: rest => (name, item.toValue) :: entriesToValues rest

/-- The values that the elements of a list of tables have become. -/
def tablesToValues : List (List (String × Item)) → List Value
  | [] => []
  | entries :: rest => .table (entriesToValues entries) :: tablesToValues rest

end

/-- One line of a text. -/
inductive Line where
  /-- Give a value to a path of names. -/
  | assign (path : List String) (name : String) (value : Value)
  | openTable (path : List String) (name : String)
  | openElement (path : List String) (name : String)

/-- The table that is built, and the path to the one that was opened last. -/
structure Building where
  root : Body := {}
  openPath : List String := []

def Building.add (b : Building) : Line → Option Building
  | .assign path name value => do
    let root ← b.root.within .implied (Body.assign path name value) b.openPath
    return { b with root }
  | .openTable path name => do
    let root ← b.root.within .implied (Body.openTable name) path
    return ⟨root, path ++ [name]⟩
  | .openElement path name => do
    let root ← b.root.within .implied (Body.openElement name) path
    return ⟨root, path ++ [name]⟩

def tableOfLines (lines : List Line) : Option (Table Value) := do
  let building ← lines.foldlM Building.add {}
  return entriesToValues building.root.entries

/-- The table that the assignments between braces build. -/
def tableOfAssignments (assignments : List (List String × String × Value)) :
    Option (Table Value) := do
  let body ← assignments.foldlM (fun b (path, name, value) => Body.assign path name value b)
    ({} : Body)
  return entriesToValues body.entries

end ApiReview.Toml
