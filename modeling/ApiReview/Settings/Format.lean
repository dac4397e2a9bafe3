import ApiReview.Json.FromText
import ApiReview.Number.Power
import ApiReview.Settings.KeyPath
import ApiReview.Toml.FromText
import ApiReview.Yaml.FromText

/-!
# Files of settings

A layer is written as TOML, JSON or YAML, which the extension of its file tells.
Its outermost value has to be a table.  A TOML date counts as a text; an integer
of JSON that needs more than 64 bits with a sign counts as another number; a
plain scalar of YAML is taken for what it looks like.
-/

namespace ApiReview

inductive SettingsFormat where
  | toml
  | json
  | yaml
deriving DecidableEq, Repr

namespace Setting

mutual

/-- A TOML value as a setting. -/
def ofToml (origin : Origin) : Toml.Value → Setting
  | .text s => .scalar origin (.text s)
  | .integer n => .scalar origin (.integer n)
  | .real x => .scalar origin (.real x)
  | .flag b => .scalar origin (.flag b)
  | .moment m => .scalar origin (.text m.text)
  | .list items => .list origin (ofTomlItems origin items)
  | .table entries => .table origin (ofTomlEntries origin entries)

/-- The items of a TOML list as settings. -/
def ofTomlItems (origin : Origin) : List Toml.Value → List Setting
  | [] => []
  | v :: rest => ofToml origin v :: ofTomlItems origin rest

/-- The entries of a TOML table as settings. -/
def ofTomlEntries (origin : Origin) : List (String × Toml.Value) → List (String × Setting)
  | [] => []
  | (name, v) :: rest => (name, ofToml origin v) :: ofTomlEntries origin rest

end

mutual

/-- A JSON value as a setting. -/
def ofJson (origin : Origin) : Json.Value → Setting
  | .null => .scalar origin .nothing
  | .bool b => .scalar origin (.flag b)
  | .number (.integer n) =>
    .scalar origin (if fitsSigned 64 n then .integer n else .real (.ofInt n))
  | .number (.real x) => .scalar origin (.real (.finite x))
  | .string s => .scalar origin (.text s)
  | .array items => .list origin (ofJsonItems origin items)
  | .object members => .table origin (ofJsonMembers origin members)

/-- The items of a JSON array as settings. -/
def ofJsonItems (origin : Origin) : List Json.Value → List Setting
  | [] => []
  | v :: rest => ofJson origin v :: ofJsonItems origin rest

/-- The members of a JSON object as settings. -/
def ofJsonMembers (origin : Origin) : List (String × Json.Value) → List (String × Setting)
  | [] => []
  | (name, v) :: rest => (name, ofJson origin v) :: ofJsonMembers origin rest

end

end Setting

namespace SettingsFormat

open Yaml (ScalarStyle Event)
open FromYaml (Shapes)

/-- The integer that a YAML scalar looks like. -/
def integer? (s : String) : Option Int :=
  let n? :=
    match s.toList with
    | '0' :: 'x' :: digits => (natOfDigits? 16 digits).map Int.ofNat
    | '0' :: 'o' :: digits => (natOfDigits? 8 digits).map Int.ofNat
    | '+' :: rest => intOfText? (String.ofList rest)
    | _ => intOfText? s
  n?.filter (fitsSigned 64)

/-- The words for numbers that no digits give; settings cannot hold them. -/
def isBarredNumber (s : String) : Bool :=
  [".inf", ".Inf", ".INF", "+.inf", "+.Inf", "+.INF", "-.inf", "-.Inf", "-.INF", ".nan",
    ".NAN"].contains s

/-- The number that a YAML scalar looks like. -/
def real? (s : String) : Except Complaint (Option Scalar) :=
  if isBarredNumber s then .error (.custom s)
  else .ok ((Binary64.ofText? s).map .real)

/-- What a YAML scalar without a tag and without quotes is taken for. -/
def guessed (s : String) : Except Complaint Scalar := do
  if s.isEmpty || s == "~" || s == "null" then return .nothing
  if s == "true" then return .flag true
  if s == "false" then return .flag false
  match integer? s with
  | some n => return .integer n
  | none => return (← real? s).getD (.text s)

/-- What a YAML scalar without quotes is, given its tag. -/
def tagged (tag s : String) : Except Complaint Scalar := do
  if tag == "tag:yaml.org,2002:bool" then
    return if s == "true" then .flag true else if s == "false" then .flag false else .nothing
  else if tag == "tag:yaml.org,2002:int" then
    return (((intOfText? s).filter (fitsSigned 64)).map .integer).getD .nothing
  else if tag == "tag:yaml.org,2002:float" then
    return (← real? s).getD .nothing
  else if tag == "tag:yaml.org,2002:null" then
    return .nothing
  else
    return .text s

/-- What a YAML scalar is. -/
def scalar (tag : Option String) (s : String) (style : ScalarStyle) :
    Except Complaint Scalar :=
  if style != .plain then .ok (.text s)
  else
    match tag with
    | none => guessed s
    | some tag => tagged tag s

/-- The name that a key of a mapping gives. -/
def keyName : Setting → Except Complaint String
  | .scalar _ (.text s) => .ok s
  | .scalar _ (.integer n) => .ok (toString n)
  | _ => .error (.custom "a name has to be a text")

def shapes (origin : Origin) : Shapes Setting where
  tagged := none
  absent := .scalar origin .nothing
  scalar tag s style := (scalar tag s style).map (.scalar origin)
  list := .list origin
  mapping read mark := fun around => do
    let entries ← FromYaml.mapping mark ([] : Table Setting)
      (fun _ around => do
        match keyName (← read around) with
        | .ok name => return name
        | .error c => FromYaml.complain c around)
      (fun name t around => do return Table.put t name (← read around)) around
    return .table origin entries

/-- The settings in a YAML text; a text without any document sets nothing. -/
def fromYaml (origin : Origin) : FromYaml Setting := fun around => do
  match (← FromYaml.peek around).1 with
  | .nothing =>
    FromYaml.skip around
    return .emptyTable
  | _ => FromYaml.any (shapes origin) (around.depth + 1) around

def ofExtension? (extension : String) : Option SettingsFormat :=
  [("toml", SettingsFormat.toml), ("json", .json), ("yaml", .yaml), ("yml", .yaml)].lookup
    extension

/-- The extensions in the order in which they are tried. -/
def extensions : List String :=
  ["toml", "json", "yaml", "yml"]

/-- The value that a text of a format holds; none if it is not well-formed. -/
def value? (format : SettingsFormat) (origin : Origin) (text : String) : Option Setting :=
  match format with
  | .toml => (Toml.read text).map fun entries => .ofToml origin (.table entries)
  | .json =>
    match Json.Value.parse text with
    | .ok v => some (.ofJson origin v)
    | .error _ => none
  | .yaml =>
    match Yaml.readText (fromYaml origin) text with
    | .ok s => some s
    | .error _ => none

/-- The layer that a text of a format is. -/
def layer? (format : SettingsFormat) (origin : Origin) (text : String) :
    Option (Table Setting) :=
  match format.value? origin text with
  | some (.table _ entries) => some entries
  | _ => none

end SettingsFormat

end ApiReview
