import ApiReview.Text.CasingTable
import ApiReview.Text.CaseContextTable

/-!
# Upper and lower case

Operation identifiers and schema names are compared by their full lower case
form, in which a capital sigma at the end of a word becomes a final sigma.
Type names are built with the full upper case form of a first letter, which may
have more than one character (`ß` becomes `SS`).
-/

namespace ApiReview.Text

namespace CaseRun

/-- The code point to which a run maps `n`, if `n` belongs to the run. -/
def image? (run : CaseRun) (n : Nat) : Option Nat :=
  if run.first ≤ n && n ≤ run.last && (n - run.first) % run.stride == 0 then
    some ((n : Int) + run.distance).toNat
  else
    none

end CaseRun

/-- The lower case form of one character, wherever it stands. -/
def lowerChar (c : Char) : List Char :=
  if c.toNat < 128 then [c.toLower]
  else if c.toNat == 0x130 then ['i', Char.ofNat 0x307]
  else [((lowerRuns.findSome? (·.image? c.toNat)).map Char.ofNat).getD c]

/-- The upper case form of one character. -/
def upperChar (c : Char) : List Char :=
  if c.toNat < 128 then [c.toUpper]
  else
    match upperSpecial.lookup c.toNat with
    | some points => points.map Char.ofNat
    | none => [((upperRuns.findSome? (·.image? c.toNat)).map Char.ofNat).getD c]

/-- Is the first character that is not case-ignorable a cased one? -/
def meetsCased (chars : List Char) : Bool :=
  match chars.dropWhile caseIgnorableSet.contains with
  | c :: _ => casedSet.contains c
  | [] => false

/-- The lower case form of the text `after`, when `before` stands before it, the
nearest character first. -/
def lowerFrom (before : List Char) : List Char → List Char
  | [] => []
  | c :: after =>
    let form :=
      if c == 'Σ' then
        if meetsCased before && !meetsCased after then ['ς'] else ['σ']
      else
        lowerChar c
    form ++ lowerFrom (c :: before) after

def lower (s : String) : String :=
  String.ofList (lowerFrom [] s.toList)

end ApiReview.Text
