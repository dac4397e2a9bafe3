import ApiReview.Reading.Format

/-!
# Reading typed values from untyped ones

Here nothing is positioned, and the first complaint ends the reading.  A record
may also be given as the list of its fields in their declared order; a list
that ends early leaves the remaining fields at their defaults.  A field may
also be named by its position, which only keys that are no texts can do.
-/

namespace ApiReview

/-- A reading of an `α` from an untyped value. -/
abbrev FromUntyped (α : Type) := Untyped → Except Complaint α

namespace FromUntyped

variable {α σ : Type}

/-- The complaint about a value that is of another type than the wanted one. -/
def mistyped (v : Untyped) (wanted : String) : Except Complaint α :=
  .error (.wrongType (.ofUntyped v) wanted)

def text : FromUntyped String
  | .text s => .ok s
  | v => mistyped v "a string"

def flag : FromUntyped Bool
  | .bool b => .ok b
  | v => mistyped v "a boolean"

def count : FromUntyped Nat
  | .integer n =>
    if n < 0 then .error (.wrongValue (.integer n) "u64") else .ok n.toNat
  | v => mistyped v "u64"

/-- A binary64 number; an integer is rounded to one. -/
def number : FromUntyped Binary64
  | .integer n => .ok (.ofInt n)
  | .real x => .ok x
  | v => mistyped v "f64"

/-- A value that may be absent. -/
def optional (read : FromUntyped α) : FromUntyped (Option α)
  | .null => .ok none
  | v => (read v).map some

def list (read : FromUntyped α) : FromUntyped (List α)
  | .sequence items => items.mapM read
  | v => mistyped v "a sequence"

/-- Put the entries into a table, one after the other. -/
def putEntries (read : FromUntyped α) :
    List (Untyped × Untyped) → Table α → Except Complaint (Table α)
  | [], t => .ok t
  | (key, v) :: rest, t => do
    let name ← text key
    let value ← read v
    putEntries read rest (t.put name value)

def table (read : FromUntyped α) : FromUntyped (Table α)
  | .mapping entries => putEntries read entries []
  | v => mistyped v "a map"

/-- The field that a key names; none for a name or a position that no field
has. -/
def fieldOf (fields : List (Field FromUntyped σ)) (key : Untyped) :
    Except Complaint (Option (Field FromUntyped σ)) :=
  match key with
  | .text name => .ok (fields.find? (·.name == name))
  | .integer n =>
    if n < 0 then mistyped key "field identifier" else .ok fields[n.toNat]?
  | _ => mistyped key "field identifier"

/-- Read the entries of a record, remembering which fields were given. -/
def readEntries (fields : List (Field FromUntyped σ)) :
    List (Untyped × Untyped) → List String → σ → Except Complaint (List String × σ)
  | [], given, s => .ok (given, s)
  | (key, v) :: rest, given, s => do
    match ← fieldOf fields key with
    | none => readEntries fields rest given s
    | some field =>
      if given.contains field.name then
        .error (.duplicateField field.name)
      else
        let change ← field.read v
        readEntries fields rest (field.name :: given) (change s)

/-- Read the fields of a record from the items of a list; `position` items were
read before. -/
def readItems (wanted : String) (total : Nat) :
    List (Field FromUntyped σ) → List Untyped → Nat → σ → Except Complaint σ
  | [], [], _, s => .ok s
  | [], _ :: _, _, _ => .error (.wrongLength total "fewer elements in array")
  | field :: fields, [], position, s =>
    if field.required then
      .error (.wrongLength position wanted)
    else
      readItems wanted total fields [] position s
  | field :: fields, v :: rest, position, s => do
    let change ← field.read v
    readItems wanted total fields rest (position + 1) (change s)

/-- A record, from a mapping or from the list of its fields. -/
def record (name : String) (fields : List (Field FromUntyped σ)) (start : σ) :
    FromUntyped σ
  | .mapping entries => do
    let (given, s) ← readEntries fields entries [] start
    match Field.missing? fields given with
    | some field => .error (.missingField field)
    | none => .ok s
  | .sequence items =>
    readItems (Field.lengthWanted name fields) items.length fields items 0 start
  | v => mistyped v ("struct " ++ name)

/-- One of some words, each standing for a value.  The word may also be the
only key of a mapping whose value is absent. -/
def choice (words : List (String × α)) : FromUntyped α
  | .text word => pick word
  | .mapping [(key, v)] => do
    let value ←
      match key with
      | .text word => pick word
      | .integer n =>
        match words[n.toNat]? with
        | some (_, value) =>
          if n < 0 then mistyped key "variant identifier" else .ok value
        | none => mistyped key "variant identifier"
      | _ => mistyped key "variant identifier"
    match v with
    | .null => .ok value
    | _ => mistyped v "unit"
  | .mapping _ => .error (.wrongValue .mapping "map with a single key")
  | v => mistyped v "string or map"
where
  /-- The value of a word. -/
  pick (word : String) : Except Complaint α :=
    match words.lookup word with
    | some value => .ok value
    | none => .error (.unknownWord word (words.map Prod.fst))

mutual

/-- Any JSON value; what is not a finite number becomes null, and of several
values for a name the last one counts. -/
def json : Untyped → Except Complaint Json.Value
  | .null => .ok .null
  | .bool b => .ok (.bool b)
  | .integer n => .ok (.number (.integer n))
  | .real x => .ok (.ofBinary64 x)
  | .text s => .ok (.string s)
  | .sequence items => do
    let values ← jsonItems items
    .ok (.array values)
  | .mapping entries => do
    let members ← jsonMembers entries []
    .ok (.object members)

/-- The JSON values of the items of a sequence. -/
def jsonItems : List Untyped → Except Complaint (List Json.Value)
  | [] => .ok []
  | v :: rest => do
    let value ← json v
    let values ← jsonItems rest
    .ok (value :: values)

/-- The members of an object, put one after the other. -/
def jsonMembers :
    List (Untyped × Untyped) → Table Json.Value → Except Complaint (Table Json.Value)
  | [], t => .ok t
  | (key, v) :: rest, t => do
    let name ← text key
    let value ← json v
    jsonMembers rest (t.put name value)

end

instance : Format FromUntyped where
  map f read := fun v => (read v).map f
  delay read := fun v => read () v
  text := text
  flag := flag
  count := count
  number := number
  optional := optional
  list := list
  table := table
  record := record
  json := json
  decide choose := choose

end FromUntyped

end ApiReview
