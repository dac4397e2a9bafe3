import ApiReview.Json.Numeral
import ApiReview.Reading.FromUntyped

/-!
# Reading typed values from JSON texts

A JSON text is read as far as its first fault or complaint.  Complaints about a
value get the place at which the innermost list, record, table or scalar around
it stopped: a list or a record that fails inside still moves over its closing
bracket if that is what follows.  Values that no field asks for are moved over
with fewer demands than values that are read.
-/

namespace ApiReview

/-- A reading of an `α` from a JSON text, given how many levels of nesting are
still open to it. -/
abbrev FromJsonText (α : Type) := Nat → Json.Scanner α

namespace FromJsonText

open Json
open Json.Scanner

variable {α σ : Type}

/-- Move over a scalar that is not of the wanted type, and complain. -/
def mistyped (wanted : String) : Scanner α := do
  let wrong (found : Found) : Scanner α := complain (.wrongType found wanted)
  let wrongNumber (n : Number) : Scanner α :=
    match n with
    | .integer i => wrong (.integer i)
    | .real x => wrong (.real (.finite x))
  match ← peek with
  | some 'n' =>
    skip
    word ['u', 'l', 'l']
    wrong .absent
  | some 't' =>
    skip
    word ['r', 'u', 'e']
    wrong (.bool true)
  | some 'f' =>
    skip
    word ['a', 'l', 's', 'e']
    wrong (.bool false)
  | some '-' =>
    skip
    wrongNumber (← numeral true)
  | some '"' =>
    skip
    wrong (.text (← string))
  | some '[' => wrong .sequence
  | some '\x7b' => wrong .mapping
  | some c =>
    if c.isDigit then wrongNumber (← numeral false) else faultNext .valueExpected
  | none => faultNext .valueExpected

/-- The first character of the next value. -/
def opening : Scanner Char := do
  match ← peekToken with
  | some c => pure c
  | none => faultNext .endInValue

def text : FromJsonText String := fun _ => do
  match ← opening with
  | '"' =>
    skip
    string
  | _ => placed (mistyped "a string")

def flag : FromJsonText Bool := fun _ => do
  match ← opening with
  | 't' =>
    skip
    word ['r', 'u', 'e']
    pure true
  | 'f' =>
    skip
    word ['a', 'l', 's', 'e']
    pure false
  | _ => placed (mistyped "a boolean")

/-- A number that passes a test. -/
def numeric (wanted : String) (accept : Number → Except Complaint α) :
    FromJsonText α := fun _ => placed do
  let test (n : Number) : Scanner α :=
    match accept n with
    | .ok value => pure value
    | .error c => complain c
  match ← opening with
  | '-' =>
    skip
    test (← numeral true)
  | c => if c.isDigit then test (← numeral false) else mistyped wanted

def count : FromJsonText Nat :=
  numeric "u64" fun
    | .integer n => FromUntyped.count (.integer n)
    | .real x => FromUntyped.count (.real (.finite x))

def number : FromJsonText Binary64 :=
  numeric "f64" fun
    | .integer n => .ok (.ofInt n)
    | .real x => .ok (.finite x)

/-- A value that may be null. -/
def optional (read : FromJsonText α) : FromJsonText (Option α) := fun depth => do
  match ← peekToken with
  | some 'n' =>
    skip
    word ['u', 'l', 'l']
    pure none
  | _ => some <$> read depth

/-- What stands between two brackets, and then the closing one.  When the inside
fails, the closing bracket is still looked for, as it decides the place. -/
def closedBy (close : Scanner Unit) (inside : Scanner α) : Scanner α := fun c =>
  match inside c with
  | (.error f, c') => (.error f, (close c').2)
  | (.ok value, c') => (close.map fun _ => value) c'

def endList : Scanner Unit := do
  match ← peekToken with
  | some ']' => skip
  | some ',' =>
    skip
    match ← peekToken with
    | some ']' => faultNext .trailingComma
    | _ => faultNext .trailingCharacters
  | some _ => faultNext .trailingCharacters
  | none => faultNext .endInList

def endObject : Scanner Unit := do
  match ← peekToken with
  | some '\x7d' => skip
  | some ',' => faultNext .trailingComma
  | some _ => faultNext .trailingCharacters
  | none => faultNext .endInObject

/-- Does another item follow?  The comma before it is moved over. -/
def hasItem (first : Bool) : Scanner Bool := do
  match ← peekToken with
  | none => faultNext .endInList
  | some ']' => pure false
  | some c =>
    if first then
      pure true
    else if c == ',' then
      skip
      match ← peekToken with
      | some ']' => faultNext .trailingComma
      | some _ => pure true
      | none => faultNext .endInValue
    else
      faultNext .listGoesOn

/-- Does another member follow?  The comma before it is moved over. -/
def hasMember (first : Bool) : Scanner Bool := do
  match ← peekToken with
  | none => faultNext .endInObject
  | some '\x7d' => pure false
  | some c =>
    if first then
      if c == '"' then pure true else faultNext .keyIsNoString
    else if c == ',' then
      skip
      match ← peekToken with
      | some '"' => pure true
      | some '\x7d' => faultNext .trailingComma
      | some _ => faultNext .keyIsNoString
      | none => faultNext .endInValue
    else
      faultNext .objectGoesOn

/-- The colon between a name and its value. -/
def colon : Scanner Unit := do
  match ← peekToken with
  | some ':' => skip
  | some _ => faultNext .colonExpected
  | none => faultNext .endInObject

/-- The items of a list, `fuel` at most. -/
def itemsFrom (item : Scanner α) : Nat → Bool → Scanner (List α)
  | 0, _ => pure []
  | fuel + 1, first => do
    if ← hasItem first then
      let value ← item
      let rest ← itemsFrom item fuel false
      pure (value :: rest)
    else
      pure []

/-- The items of a list; each takes up at least one character. -/
def items (item : Scanner α) : Scanner (List α) := do
  itemsFrom item ((← get).rest.length + 1) true

/-- Enter the members of an object into a state, `fuel` at most. -/
def membersFrom (enter : String → σ → Scanner σ) : Nat → Bool → σ → Scanner σ
  | 0, _, s => pure s
  | fuel + 1, first, s => do
    if ← hasMember first then
      skip
      let name ← string
      let s ← enter name s
      membersFrom enter fuel false s
    else
      pure s

/-- Enter the members of an object into a state. -/
def members (enter : String → σ → Scanner σ) (s : σ) : Scanner σ := do
  membersFrom enter ((← get).rest.length + 1) true s

/-- Read what stands one level further in. -/
def nested (depth : Nat) (inside : Nat → Scanner α) : Scanner α :=
  match depth with
  | d + 2 => do
    skip
    inside (d + 1)
  | _ => faultNext .tooDeep

def list (read : FromJsonText α) : FromJsonText (List α) := fun depth => do
  match ← opening with
  | '[' => placed (nested depth fun d => closedBy endList (items (read d)))
  | _ => placed (mistyped "a sequence")

def table (read : FromJsonText α) : FromJsonText (Table α) := fun depth => do
  match ← opening with
  | '\x7b' =>
    placed <| nested depth fun d => closedBy endObject <|
      members (fun name (t : Table α) => do
        colon
        let value ← read d
        pure (t.put name value)) []
  | _ => placed (mistyped "a map")

/-- What is being looked at while nobody asks for it. -/
inductive Frame where
  | list
  | object

/-- Move over a value that nobody asks for.  `frames` are the lists and objects
that are open inside of it, `inValue` tells whether a value comes next, and
`comma` whether a comma may. -/
def passFrom : Nat → (inValue comma : Bool) → List Frame → Scanner Unit
  | 0, _, _, _ => pure ()
  | fuel + 1, true, _, frames => do
    let done : Scanner Unit :=
      if frames.isEmpty then pure () else passFrom fuel false true frames
    match ← opening with
    | 'n' =>
      skip
      word ['u', 'l', 'l']
      done
    | 't' =>
      skip
      word ['r', 'u', 'e']
      done
    | 'f' =>
      skip
      word ['a', 'l', 's', 'e']
      done
    | '-' =>
      skip
      passNumeral
      done
    | '"' =>
      skip
      passString
      done
    | '[' =>
      skip
      passFrom fuel false false (.list :: frames)
    | '\x7b' =>
      skip
      passFrom fuel false false (.object :: frames)
    | c =>
      if c.isDigit then
        passNumeral
        done
      else
        faultNext .valueExpected
  | _ + 1, false, _, [] => pure ()
  | fuel + 1, false, comma, frame :: outer => do
    let goOn : Scanner Unit :=
      match frame with
      | .list => passFrom fuel true false (frame :: outer)
      | .object => do
        match ← peekToken with
        | some '"' => skip
        | some _ => faultNext .keyIsNoString
        | none => faultNext .endInObject
        passString
        colon
        passFrom fuel true false (frame :: outer)
    let close : Scanner Unit := do
      skip
      if outer.isEmpty then pure () else passFrom fuel false true outer
    match ← peekToken, frame with
    | some ',', _ =>
      if comma then
        skip
        goOn
      else
        goOn
    | some ']', .list => close
    | some '\x7d', .object => close
    | some _, .list => if comma then faultNext .listGoesOn else goOn
    | some _, .object => if comma then faultNext .objectGoesOn else goOn
    | none, .list => faultNext .endInList
    | none, .object => faultNext .endInObject

/-- Move over a value that nobody asks for. -/
def pass : Scanner Unit := do
  passFrom (2 * (← get).rest.length + 2) true false []

/-- Enter one member into a record. -/
def enterField (fields : List (Field FromJsonText σ)) (depth : Nat) (name : String)
    (state : List String × σ) : Scanner (List String × σ) := do
  match fields.find? (·.name == name) with
  | none =>
    colon
    pass
    pure state
  | some field =>
    if state.1.contains name then
      complain (.duplicateField name)
    else
      colon
      let change ← field.read depth
      pure (name :: state.1, change state.2)

def recordMembers (fields : List (Field FromJsonText σ)) (start : σ) (depth : Nat) :
    Scanner σ := do
  let (given, s) ← members (enterField fields depth) ([], start)
  match Field.missing? fields given with
  | some field => complain (.missingField field)
  | none => pure s

/-- The items of a list that stands for a record. -/
def recordItems (wanted : String) (depth : Nat) :
    List (Field FromJsonText σ) → Nat → Bool → σ → Scanner σ
  | [], _, _, s => pure s
  | field :: fields, position, more, s => do
    if ← (if more then hasItem (position == 0) else pure false) then
      let change ← field.read depth
      recordItems wanted depth fields (position + 1) true (change s)
    else if field.required then
      complain (.wrongLength position wanted)
    else
      recordItems wanted depth fields position false s

/-- A record, from an object or from the list of its fields. -/
def record (name : String) (fields : List (Field FromJsonText σ)) (start : σ) :
    FromJsonText σ := fun depth => do
  match ← opening with
  | '[' =>
    placed <| nested depth fun d => closedBy endList <|
      recordItems (Field.lengthWanted name fields) d fields 0 true start
  | '\x7b' =>
    placed <| nested depth fun d => closedBy endObject (recordMembers fields start d)
  | _ => placed (mistyped ("struct " ++ name))

/-- An untyped value, given how values one level further in are read; none when
no further level is open. -/
def untypedWith (inner : Option (Scanner Untyped)) : Scanner Untyped := do
  let ofNumber (n : Number) : Untyped :=
    match n with
    | .integer i => .integer i
    | .real x => .real (.finite x)
  match ← opening with
  | 'n' =>
    skip
    word ['u', 'l', 'l']
    pure .null
  | 't' =>
    skip
    word ['r', 'u', 'e']
    pure (.bool true)
  | 'f' =>
    skip
    word ['a', 'l', 's', 'e']
    pure (.bool false)
  | '-' =>
    skip
    ofNumber <$> numeral true
  | '"' =>
    skip
    .text <$> string
  | '[' =>
    match inner with
    | some inside =>
      skip
      .sequence <$> closedBy endList (items inside)
    | none => faultNext .tooDeep
  | '\x7b' =>
    match inner with
    | some inside =>
      skip
      let entries ← closedBy endObject <|
        members (fun name (entries : List (Untyped × Untyped)) => do
          colon
          let value ← inside
          pure ((.text name, value) :: entries)) []
      pure (.mapping entries.reverse)
    | none => faultNext .tooDeep
  | c => if c.isDigit then ofNumber <$> numeral false else faultNext .valueExpected

def untyped : FromJsonText Untyped
  | d + 2 => untypedWith (some (untyped (d + 1)))
  | _ => untypedWith none

/-- An untyped value, decided on as a whole; a complaint gets its place from what
is around the value. -/
def decide (choose : Untyped → Except Complaint α) : FromJsonText α := fun depth => do
  match choose (← untyped depth) with
  | .ok value => pure value
  | .error c => complain c

/-- JSON texts are a format. -/
instance : Format FromJsonText where
  map f read := fun depth => f <$> read depth
  delay read := fun depth => read () depth
  text := text
  flag := flag
  count := count
  number := number
  optional := optional
  list := list
  table := table
  record := record
  json := decide FromUntyped.json
  decide := decide

end FromJsonText

namespace Json

/-- How many levels of nesting a JSON text may have, and one. -/
def nestingLimit : Nat :=
  128

/-- Read a whole JSON text. -/
def readText {α : Type} (read : FromJsonText α) (s : String) : Except Failure α :=
  let whole : Scanner α := do
    let value ← read nestingLimit
    match ← Scanner.peekToken with
    | some _ => Scanner.faultNext .trailingCharacters
    | none => pure value
  (whole (Cursor.ofString s)).1

/-- The JSON value of a text. -/
def Value.parse (s : String) : Except Failure Value :=
  readText Format.json s

end Json

end ApiReview
