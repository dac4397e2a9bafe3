import ApiReview.Number.FromText
import ApiReview.Settings.Layer

/-!
# Paths to settings

The name of an outermost setting may be a path: names that are separated by
dots, and positions in lists between brackets.  A path is followed from the
outermost table on, and what is in its way becomes the table or the list that it
asks for.  A text that is no path names one setting as a whole.
-/

namespace ApiReview

/-- One step on the way to a setting. -/
inductive KeyStep where
  | name (s : String)
  | position (index : Int)
deriving DecidableEq, Repr

/-- The way to a setting: a name, and the steps that follow it. -/
structure KeyPath where
  head : String
  steps : List KeyStep := []
deriving DecidableEq, Repr

namespace KeyPath

/-- May a character stand in a name of a path? -/
def isNameChar (c : Char) : Bool :=
  c.isAlphanum || c == '_' || c == '-' || c == ' '

/-- The position between brackets, with what follows the closing one. -/
def position? (chars : List Char) : Option (Int × List Char) :=
  let isDigitOrSign (c : Char) : Bool := c.isDigit || c == '-' || c == '+'
  let chars := chars.dropWhile (· == ' ')
  let digits := chars.takeWhile isDigitOrSign
  match (chars.drop digits.length).dropWhile (· == ' ') with
  | ']' :: rest => (intOfText? (String.ofList digits)).map fun n => (n, rest)
  | _ => none

/-- The steps that a text gives, `fuel` at most. -/
def steps? : (fuel : Nat) → List Char → Option (List KeyStep)
  | _, [] => some []
  | 0, _ => none
  | fuel + 1, '.' :: rest => do
    let name := rest.takeWhile isNameChar
    if name.isEmpty then none
    return .name (String.ofList name) :: (← steps? fuel (rest.drop name.length))
  | fuel + 1, '[' :: rest => do
    let (index, rest) ← position? rest
    return .position index :: (← steps? fuel rest)
  | _ + 1, _ :: _ => none

def ofText (s : String) : KeyPath :=
  let chars := s.toList
  let name := chars.takeWhile isNameChar
  if name.isEmpty then
    ⟨s, []⟩
  else
    match steps? chars.length (chars.drop name.length) with
    | some steps => ⟨String.ofList name, steps⟩
    | none => ⟨s, []⟩

/-- The items of a list; what is no list has none. -/
def items : Setting → List Setting
  | .list _ items => items
  | _ => []

/-- A list with other items; what is no list becomes one. -/
def withItems (s : Setting) (items : List Setting) : Setting :=
  match s with
  | .list origin _ => .list origin items
  | _ => .list none items

/-- The place of a position in a list; negative ones count from the end. -/
def placeIn (index : Int) (length : Nat) : Nat :=
  if index < 0 then length - index.natAbs else index.toNat

/-- Put a value at the end of some steps from a value that was there, if any. -/
def putAt (value : Setting) : List KeyStep → Option Setting → Setting
  | [], below => value.mergedOnto below
  | .name s :: rest, below =>
    let table := below.getD .emptyTable
    let key := Text.lower s
    table.withEntries (table.entries.put key (putAt value rest (table.entries.get? key)))
  | .position index :: rest, below =>
    let list := below.getD .nothing
    let place := placeIn index (items list).length
    let missing := place + 1 - (items list).length
    let filled := items list ++ List.replicate missing Setting.nothing
    let inner := if rest.isEmpty then value else putAt value rest filled[place]?
    withItems list (filled.set place inner)

/-- Put a value over the outermost table. -/
def put (path : KeyPath) (value : Setting) (root : Setting) : Setting :=
  putAt value (.name path.head :: path.steps) (some root)

end KeyPath

/-- Put the entries of a layer, whose names are paths, over the settings below. -/
def Setting.putLayer (below : Setting) (layer : Table Setting) : Setting :=
  layer.foldl (fun s (name, value) => (KeyPath.ofText name).put value s) below

end ApiReview
