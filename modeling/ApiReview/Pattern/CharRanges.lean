import ApiReview.Number.Power
import ApiReview.Text.CharSet

/-!
# Ranges of characters

A set of characters as ascending ranges of code points between which others are
missing, and the sequences of byte ranges that cover a range in UTF-8.
-/

namespace ApiReview.Pattern

/-- Ascending ranges of code points, ends included, that do not touch. -/
abbrev CharRanges := List (Nat × Nat)

namespace CharRanges

def top : Nat :=
  0x10FFFF

/-- Join ranges that touch; they come in ascending order of their starts. -/
def join : List (Nat × Nat) → CharRanges
  | [] => []
  | (first, last) :: rest =>
    match join rest with
    | [] => [(first, last)]
    | (next, end_) :: more =>
      if next ≤ last + 1 then (first, max last end_) :: more
      else (first, last) :: (next, end_) :: more

/-- The ranges that cover what some ranges in any order cover. -/
def ofList (ranges : List (Nat × Nat)) : CharRanges :=
  join (ranges.mergeSort fun a b => a.1 ≤ b.1)

/-- The union of two sets. -/
def union (s t : CharRanges) : CharRanges :=
  ofList (s ++ t)

/-- What is missing from a code point on. -/
def missingFrom : Nat → CharRanges → CharRanges
  | next, [] => if next ≤ top then [(next, top)] else []
  | next, (first, last) :: rest =>
    if next < first then (next, first - 1) :: missingFrom (last + 1) rest
    else missingFrom (last + 1) rest

def complement (s : CharRanges) : CharRanges :=
  missingFrom 0 s

def inter (s t : CharRanges) : CharRanges :=
  complement (union (complement s) (complement t))

/-- What the first set has and the second has not. -/
def diff (s t : CharRanges) : CharRanges :=
  inter s (complement t)

/-- The ranges between pairs of changes. -/
def ofChanges : List Nat → CharRanges
  | first :: next :: rest => (first, next - 1) :: ofChanges rest
  | [first] => [(first, top)]
  | [] => []

def ofSet (set : Text.CharSet) : CharRanges :=
  ofChanges set.changes.toList

/-- The bytes of a code point in UTF-8. -/
def bytes (n : Nat) : List Nat :=
  if n < 0x80 then [n]
  else if n < 0x800 then [0xC0 + n / 64, 0x80 + n % 64]
  else if n < 0x10000 then [0xE0 + n / 4096, 0x80 + n / 64 % 64, 0x80 + n % 64]
  else [0xF0 + n / 262144, 0x80 + n / 4096 % 64, 0x80 + n / 64 % 64, 0x80 + n % 64]

/-- Where a range has to be cut so that its first part is covered by one sequence
of byte ranges: behind the last code point of that part. -/
def cut? (first last : Nat) : Option Nat :=
  let widths := [0x7F, 0x7FF, 0xFFFF].find? fun limit => first ≤ limit && limit < last
  match widths with
  | some limit => some limit
  | none =>
    if last < 0x80 then none
    else
      [6, 12, 18].findSome? fun bits =>
        let block := twoTo bits
        if first / block == last / block then none
        else if first % block != 0 then some (first / block * block + block - 1)
        else if last % block != block - 1 then some (last / block * block - 1)
        else none

/-- The sequences of byte ranges that cover a range without surrogates. -/
def sequencesOf : Nat → Nat → Nat → List (List (Nat × Nat))
  | 0, _, _ => []
  | fuel + 1, first, last =>
    match cut? first last with
    | some middle =>
      sequencesOf fuel first middle ++ sequencesOf fuel (middle + 1) last
    | none => [(bytes first).zip (bytes last)]

/-- The sequences of byte ranges that cover a set, in ascending order. -/
def sequences (s : CharRanges) : List (List (Nat × Nat)) :=
  (diff s [(0xD800, 0xDFFF)]).flatMap fun (first, last) => sequencesOf 64 first last

/-- How many elements of a list follow the part that it shares with another. -/
def newPart : List (Nat × Nat) → List (Nat × Nat) → Nat
  | a :: s, b :: t => if a == b then newPart s t else (a :: s).length
  | s, _ => s.length

/-- How many nodes the tree of some ascending sequences has, behind the sequence
before them. -/
def nodes : List (Nat × Nat) → List (List (Nat × Nat)) → Nat
  | _, [] => 0
  | before, s :: rest => newPart s before + nodes s rest

end CharRanges

end ApiReview.Pattern
