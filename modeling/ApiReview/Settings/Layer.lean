import ApiReview.Number.Binary64
import ApiReview.Settings.Settings
import ApiReview.Text.Casing

/-!
# Layers of settings

Settings come in layers: files and the environment, each of which may set some
of them.  A layer is put over the ones below it name by name: tables are merged,
and every other value replaces what was there.  Names do not depend on the case
of their letters.  Each value remembers where it was set, so that a complaint
about it can say so.
-/

namespace ApiReview

/-- Where a value was set. -/
inductive Origin where
  | file (path : String)
  | environment
deriving DecidableEq, Repr

/-- The words for an origin. -/
def Origin.text : Origin → String
  | .file path => path
  | .environment => "the environment"

inductive Scalar where
  | nothing
  | flag (b : Bool)
  | integer (n : Int)
  | real (x : Binary64)
  | text (s : String)
deriving DecidableEq, Repr, Inhabited

/-- A value that a layer sets.  Tables that come to be by merging have no
origin. -/
inductive Setting where
  | scalar (origin : Option Origin) (value : Scalar)
  | list (origin : Option Origin) (items : List Setting)
  | table (origin : Option Origin) (entries : List (String × Setting))
deriving Repr, Inhabited

namespace Setting

mutual

/-- Decide whether two values are the same. -/
def decEq : (s t : Setting) → Decidable (s = t)
  | .scalar origin value, .scalar origin' value' =>
    decidable_of_iff (origin = origin' ∧ value = value') (by simp)
  | .list origin items, .list origin' items' =>
    have := decEqItems items items'
    decidable_of_iff (origin = origin' ∧ items = items') (by simp)
  | .table origin entries, .table origin' entries' =>
    have := decEqEntries entries entries'
    decidable_of_iff (origin = origin' ∧ entries = entries') (by simp)
  | .scalar _ _, .list _ _ | .scalar _ _, .table _ _ | .list _ _, .scalar _ _
  | .list _ _, .table _ _ | .table _ _, .scalar _ _ | .table _ _, .list _ _ =>
    isFalse nofun

/-- Decide whether the items of two lists are the same. -/
def decEqItems : (items items' : List Setting) → Decidable (items = items')
  | [], [] => isTrue rfl
  | s :: rest, t :: rest' =>
    have := decEq s t
    have := decEqItems rest rest'
    decidable_of_iff (s = t ∧ rest = rest') (by simp)
  | [], _ :: _ | _ :: _, [] => isFalse nofun

/-- Decide whether the entries of two tables are the same. -/
def decEqEntries : (entries entries' : List (String × Setting)) → Decidable (entries = entries')
  | [], [] => isTrue rfl
  | (name, s) :: rest, (name', t) :: rest' =>
    have := decEq s t
    have := decEqEntries rest rest'
    decidable_of_iff ((name = name' ∧ s = t) ∧ rest = rest') (by simp)
  | [], _ :: _ | _ :: _, [] => isFalse nofun

end

instance : DecidableEq Setting :=
  decEq

/-- The value that nothing was set to. -/
def nothing : Setting :=
  .scalar none .nothing

def emptyTable : Setting :=
  .table none []

/-- The entries of a table; what is no table has none. -/
def entries : Setting → Table Setting
  | .table _ entries => entries
  | _ => []

/-- A table with other entries; what is no table becomes one. -/
def withEntries (s : Setting) (entries : Table Setting) : Setting :=
  match s with
  | .table origin _ => .table origin entries
  | _ => .table none entries

mutual

/-- Put a value over the one that was there, if any. -/
def mergedOnto : Setting → Option Setting → Setting
  | .table _ added, below => mergeEntries added (below.getD emptyTable)
  | other, _ => other

/-- Put entries over those of a table, one after the other. -/
def mergeEntries : List (String × Setting) → Setting → Setting
  | [], s => s
  | (name, value) :: rest, s =>
    let key := Text.lower name
    mergeEntries rest (s.withEntries (s.entries.put key (value.mergedOnto (s.entries.get? key))))

end

end Setting

end ApiReview
