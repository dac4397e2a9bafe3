import ApiReview.Reading.Format
import ApiReview.Yaml.Failure
import ApiReview.Yaml.Grammar
import ApiReview.Yaml.ScalarValue

/-!
# Reading typed values from YAML texts

YAML is one of the formats.  Values are read from the events of the first
document, and the first failure ends the reading.  A break of the grammar is
reported when reading comes to it, so a value of a wrong type before the break
is reported first.

What differs from JSON: a scalar that is read as a text keeps its spelling
whatever it looks like; a node that is left out is an empty list, an empty table
and a record with its defaults; a record is never written as a list.  An alias
is read as if its node stood in its place; so that this ends, collections are
nested at most 128 levels deep and the number of aliases followed is limited.
-/

namespace ApiReview

namespace Yaml

/-- Where reading is: the index of the next event, and how many aliases were
followed. -/
structure Position where
  index : Nat := 0
  jumps : Nat := 0

/-- What is known around the value that is read. -/
structure Surroundings where
  contents : Contents
  path : Path := .root
  /-- How many more levels collections may be nested. -/
  depth : Nat := 128

end Yaml

open Yaml (Event Mark Failure Position Surroundings ScalarValue ScalarStyle)

/-- A reading of an `α` from the events of a YAML text. -/
abbrev FromYaml (α : Type) := Surroundings → StateT Position (Except Failure) α

namespace FromYaml

variable {α β σ : Type}

/-- Stop with a complaint that has no place yet. -/
def complain (c : Complaint) : FromYaml α := fun _ =>
  throw (.complaint c none)

def peek : FromYaml (Event × Mark) := fun around => do
  match around.contents.events[(← get).index]? with
  | some event => return event
  | none =>
    match around.contents.ending with
    | .broken f => throw (.broken f)
    | .unknownAnchor mark => throw (.unknownAnchor mark)
    | .complete | .moreDocuments => throw .endOfText

/-- Move over the next event. -/
def skip : FromYaml Unit := fun _ =>
  modify fun p => { p with index := p.index + 1 }

/-- Move over the next event and give it. -/
def next : FromYaml (Event × Mark) := fun around => do
  let event ← peek around
  skip around
  return event

/-- Read with a place for complaints that have none. -/
def placed (mark : Mark) (read : FromYaml α) : FromYaml α := fun around position =>
  (read around position).mapError (·.placedAt mark around.path)

/-- Read the node that an alias stands for, and go on behind the alias. -/
def follow (number : Nat) (read : FromYaml α) : FromYaml α := fun around => do
  let back ← get
  let jumps := back.jumps + 1
  if around.contents.events.size * 100 < jumps then
    throw .tooManyAliases
  match around.contents.target? number with
  | none => throw .endOfText
  | some index =>
    set (⟨index, jumps⟩ : Position)
    let value ← read { around with path := .alias around.path }
    modify fun p => { p with index := back.index }
    return value

/-- Read a value of which the first event is given, in place of an alias the one
it stands for. -/
def fromEvent (use : Event → Mark → FromYaml α) : FromYaml α := fun around => do
  let (event, mark) ← next around
  placed mark (fun around =>
    match event with
    | .alias number =>
      follow number (fun around => do
        let (event, mark) ← next around
        placed mark (use event mark) around) around
    | _ => use event mark around) around

/-- The complaint about a value of a wrong type that begins with an event. -/
def mistyped (event : Event) (wanted : String) : FromYaml α :=
  match event with
  | .scalar tag text style =>
    match ScalarValue.ofScalar tag text style with
    | .ok value => complain (.wrongType value.found wanted)
    | .error c => complain c
  | .mappingStart _ | .mappingEnd => complain (.wrongType .mapping wanted)
  | .sequenceStart _ | .sequenceEnd | .alias _ => complain (.wrongType .sequence wanted)
  | .nothing => fun _ => throw .endOfText

/-- A scalar as it is spelled. -/
def textAs (wanted : String) : FromYaml String :=
  fromEvent fun event _ =>
    match event with
    | .scalar _ text _ => fun _ => return text
    | _ => mistyped event wanted

def text : FromYaml String :=
  textAs "a string"

/-- A plain scalar, or a literal one with the given tag, that gives a value. -/
def scalar (tag : ScalarValue.CommonTag) (wanted : String) (value? : String → Option α) :
    FromYaml α :=
  fromEvent fun event _ =>
    match event with
    | .scalar name text style =>
      let allowed :=
        style = .plain ||
          (style = .literal && name.bind ScalarValue.CommonTag.ofName? = some tag)
      match if allowed then value? text else none with
      | some value => fun _ => return value
      | none => mistyped event wanted
    | _ => mistyped event wanted

/-- A value that may be absent, which is not an alias itself. -/
def optionalHere (read : FromYaml α) : FromYaml (Option α) := fun around => do
  let absent : StateT Position (Except Failure) (Option α) := do
    skip around
    return none
  let present : StateT Position (Except Failure) (Option α) := do
    return some (← read around)
  match (← peek around).1 with
  | .nothing => absent
  | .scalar tag text style =>
    if style != .plain then
      present
    else
      match tag with
      | none => if text.isEmpty || ScalarValue.isAbsentWord text then absent else present
      | some name =>
        if ScalarValue.CommonTag.ofName? name != some .absent then present
        else if ScalarValue.isAbsentWord text then absent
        else complain (.wrongValue (.text text) "null") around
  | _ => present

/-- A value that may be absent. -/
def optional (read : FromYaml α) : FromYaml (Option α) := fun around => do
  match (← peek around).1 with
  | .alias number =>
    skip around
    follow number (optionalHere read) around
  | _ => optionalHere read around

/-- Read what a collection holds, one level deeper. -/
def nested (mark : Mark) (read : FromYaml α) : FromYaml α := fun around =>
  match around.depth with
  | 0 => throw (.tooDeep mark)
  | depth + 1 => read { around with depth }

def endsCollection : Event → Bool
  | .sequenceEnd | .mappingEnd | .nothing => true
  | _ => false

/-- The items of a sequence up to its end; `index` of them were read before. -/
def items (read : FromYaml α) : Nat → Nat → FromYaml (List α)
  | 0, _ => fun _ => return []
  | fuel + 1, index => fun around => do
    if endsCollection (← peek around).1 then
      skip around
      return []
    else
      let value ← read { around with path := .item around.path index }
      let rest ← items read fuel (index + 1) around
      return value :: rest

/-- The path of the value behind a key that begins with an event. -/
def pathBehind (path : Yaml.Path) : Event → Yaml.Path
  | .scalar _ text _ => .member path text
  | _ => .unnamed path

/-- The members of a mapping up to its end, put together one after the other.
The key can decide how its value is read. -/
def members (key : σ → FromYaml β) (value : β → σ → FromYaml σ) :
    Nat → σ → FromYaml σ
  | 0, s => fun _ => return s
  | fuel + 1, s => fun around => do
    let (event, _) ← peek around
    if endsCollection event then
      skip around
      return s
    else
      let name ← key s around
      let s ← value name s { around with path := pathBehind around.path event }
      members key value fuel s around

/-- More than the number of events that are left. -/
def rounds (around : Surroundings) : Nat :=
  around.contents.events.size + 1

/-- Move over events until the collections that were opened are closed; `open_`
of them are. -/
def passEvents : Nat → Nat → FromYaml Unit
  | 0, _ => fun _ => return
  | fuel + 1, open_ => fun around => do
    let (event, _) ← next around
    match event with
    | .sequenceStart _ | .mappingStart _ => passEvents fuel (open_ + 1) around
    | .sequenceEnd | .mappingEnd =>
      if open_ ≤ 1 then return else passEvents fuel (open_ - 1) around
    | _ => if open_ = 0 then return else passEvents fuel open_ around

/-- Move over a value that nobody looks at. -/
def pass : FromYaml Unit := fun around =>
  passEvents (rounds around) 0 around

/-- Does an event stand for an empty collection? -/
def isLeftOut : Event → Bool
  | .nothing => true
  | .scalar _ text style => text.isEmpty && style = .plain
  | _ => false

def list (read : FromYaml α) : FromYaml (List α) :=
  fromEvent fun event mark =>
    match event with
    | .sequenceStart _ => nested mark fun around => items read (rounds around) 0 around
    | _ => if isLeftOut event then fun _ => return [] else mistyped event "a sequence"

/-- The members of a mapping, put into something that starts as `start`. -/
def mapping (mark : Mark) (start : σ) (key : σ → FromYaml β)
    (value : β → σ → FromYaml σ) : FromYaml σ :=
  nested mark fun around => members key value (rounds around) start around

def table (read : FromYaml α) : FromYaml (Table α) :=
  fromEvent fun event mark =>
    match event with
    | .mappingStart _ =>
      mapping mark ([] : Table α) (fun _ => text)
        fun name t around => do return t.put name (← read around)
    | _ => if isLeftOut event then fun _ => return [] else mistyped event "a map"

/-- The value of a field of a record: it changes the record, and is remembered
as given. -/
def fieldValue (fields : List (Field FromYaml σ)) (name : String) (s : List String × σ) :
    FromYaml (List String × σ) := fun around => do
  match fields.find? (·.name == name) with
  | none =>
    pass around
    return s
  | some field =>
    let change ← field.read around
    return (name :: s.1, change s.2)

/-- The name of a field, which must not have been given before. -/
def fieldName (fields : List (Field FromYaml σ)) (s : List String × σ) :
    FromYaml String := fun around => do
  let name ← textAs "field identifier" around
  if fields.any (·.name == name) && s.1.contains name then
    complain (.duplicateField name) around
  else
    return name

def record (name : String) (fields : List (Field FromYaml σ)) (start : σ) : FromYaml σ :=
  fromEvent fun event mark =>
    let complete (s : List String × σ) : FromYaml σ := fun around =>
      match Field.missing? fields s.1 with
      | some field => complain (.missingField field) around
      | none => return s.2
    match event with
    | .mappingStart _ => fun around => do
      let s ← mapping mark ([], start) (fieldName fields) (fieldValue fields) around
      complete s around
    | _ => if isLeftOut event then complete ([], start) else mistyped event ("struct " ++ name)

def hasOwnTag (tag : Option String) : Bool :=
  tag.any (·.startsWith "!")

def untypedScalar : ScalarValue → Except Complaint Untyped
  | .absent => .ok .null
  | .bool b => .ok (.bool b)
  | .integer n => .ok (.integer n)
  | .hugeInteger n => .error (.wrongType (.hugeInteger n) "any value")
  | .real x => .ok (.real x)
  | .text s => .ok (.text s)

/-- A JSON value from a scalar. -/
def jsonScalar : ScalarValue → Except Complaint Json.Value
  | .absent => .ok .null
  | .bool b => .ok (.bool b)
  | .integer n => .ok (.number (.integer n))
  | .hugeInteger _ => .error (.custom "JSON number out of range")
  | .real x => .ok (.ofBinary64 x)
  | .text s => .ok (.string s)

/-- What becomes of values whose type is not known in advance. -/
structure Shapes (α : Type) where
  /-- What is wrong with a node with a tag of its own, if anything. -/
  tagged : Option Complaint
  absent : α
  /-- A scalar, by its tag, its spelling and its style. -/
  scalar : Option String → String → ScalarStyle → Except Complaint α
  list : List α → α
  /-- A mapping, given the reader of the values in it. -/
  mapping : FromYaml α → Mark → FromYaml α

def Shapes.taggedWith (shapes : Shapes α) (tag : Option String) (read : FromYaml α) :
    FromYaml α :=
  match shapes.tagged with
  | some c => if hasOwnTag tag then complain c else read
  | none => read

/-- A value of any shape, nested to at most the given number of levels. -/
def any (shapes : Shapes α) : Nat → FromYaml α
  | 0 => fun _ => return shapes.absent
  | levels + 1 =>
    fromEvent fun event mark =>
      match event with
      | .scalar tag text style =>
        shapes.taggedWith tag <|
          match shapes.scalar tag text style with
          | .ok value => fun _ => return value
          | .error c => complain c
      | .sequenceStart tag =>
        shapes.taggedWith tag <|
          nested mark fun around => do
            return shapes.list (← items (any shapes levels) (rounds around) 0 around)
      | .mappingStart tag =>
        shapes.taggedWith tag <| shapes.mapping (any shapes levels) mark
      | _ => fun _ => return shapes.absent

/-- Untyped values; the keys of their mappings are untyped as well. -/
def untypedShapes : Shapes Untyped where
  tagged := some (.custom "untagged and internally tagged enums do not support enum input")
  absent := .null
  scalar tag text style := (ScalarValue.ofScalar tag text style).bind untypedScalar
  list := .sequence
  mapping read mark := fun around => do
    let entries ← mapping mark ([] : List (Untyped × Untyped)) (fun _ => read)
      (fun key entries around => do return (key, ← read around) :: entries) around
    return .mapping entries.reverse

def jsonShapes : Shapes Json.Value where
  tagged := some (.wrongType .tagged "any valid JSON value")
  absent := .null
  scalar tag text style := (ScalarValue.ofScalar tag text style).bind jsonScalar
  list := .array
  mapping read mark := fun around => do
    let members ← mapping mark ([] : Table Json.Value)
      (fun t => textAs (if t.isEmpty then "a string key" else "a string"))
      (fun name t around => do return Table.put t name (← read around)) around
    return .object members

def untyped : FromYaml Untyped := fun around =>
  any untypedShapes (around.depth + 1) around

/-- YAML texts are a format. -/
instance : Format FromYaml where
  map f read := fun around => do return f (← read around)
  delay read := fun around => read () around
  text := text
  flag := scalar .flag "a boolean" ScalarValue.flag?
  count := scalar .integer "u64" ScalarValue.count?
  number := scalar .number "f64" ScalarValue.number?
  optional := optional
  list := list
  table := table
  record := record
  json := fun around => any jsonShapes (around.depth + 1) around
  decide choose := fun around => do
    match choose (← untyped around) with
    | .ok value => return value
    | .error c => complain c around

end FromYaml

/-- The value that a YAML text with one document holds. -/
def Yaml.readText {α : Type} (read : FromYaml α) (text : String) : Except Failure α := do
  let contents := Yaml.Contents.ofText text
  let (value, _) ← (read { contents }).run {}
  match contents.ending with
  | .complete => return value
  | .broken f => throw (.broken f)
  | .unknownAnchor mark => throw (.unknownAnchor mark)
  | .moreDocuments => throw .moreDocuments

end ApiReview
