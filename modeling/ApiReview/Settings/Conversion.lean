import ApiReview.Reading.Complaint
import ApiReview.Settings.Layer

/-!
# From layers to settings

Each setting takes the value of its name, converted to its type, and keeps its
default when the name has no value.  Numbers and truth values are texts if a text
is wanted; numbers and some words are truth values if one is wanted; words that
stand for a choice are compared without regard to case.  A record may also be
given as the list of its fields.
-/

namespace ApiReview

/-- Why a value is not what a setting wants. -/
inductive SettingFault where
  /-- The value is of another type. -/
  | wrongType (found : Found) (wanted : String)
  /-- The value at a path cannot be converted. -/
  | inconvertible (found : Found) (wanted key : String) (origin : Option Origin)
  /-- A word that stands for none of the choices. -/
  | unknownChoice (choice word : String)
  /-- A value that is no word. -/
  | noChoice (choice : String)
deriving Repr

namespace SettingFault

def message : SettingFault → String
  | .wrongType found wanted =>
    "invalid type: " ++ found.describe .yaml ++ ", expected " ++ wanted
  | .inconvertible found wanted key origin =>
    "invalid type: " ++ found.describe .yaml ++ ", expected " ++ wanted ++
      (if key.isEmpty then "" else " for key `" ++ key ++ "`") ++
      (match origin with
       | some origin => " in " ++ origin.text
       | none => "")
  | .unknownChoice choice word =>
    "enum " ++ choice ++ " does not have variant constructor " ++ word
  | .noChoice choice =>
    "value of enum " ++ choice ++
      " should be represented by either string or table with exactly one key"

/-- The fault of a value inside of another one, to which a step leads. -/
def behind (step : String) : SettingFault → SettingFault
  | .inconvertible found wanted key origin =>
    let dot := if key.isEmpty || key.startsWith "[" then "" else "."
    .inconvertible found wanted (step ++ dot ++ key) origin
  | fault => fault

end SettingFault

/-- A conversion of settings to an `α`. -/
abbrev Conversion (α : Type) := Setting → Except SettingFault α

namespace Setting

/-- What a value is when it is of another type than the wanted one. -/
def found : Setting → Found
  | .scalar _ .nothing => .absent
  | .scalar _ (.flag b) => .bool b
  | .scalar _ (.integer n) => .integer n
  | .scalar _ (.real x) => .real x
  | .scalar _ (.text s) => .text s
  | .list _ _ => .sequence
  | .table _ _ => .mapping

/-- Where a value was set. -/
def origin : Setting → Option Origin
  | .scalar origin _ => origin
  | .list origin _ => origin
  | .table origin _ => origin

end Setting

namespace Conversion

variable {α σ : Type}

def itemStep (index : Nat) : String :=
  "[" ++ toString index ++ "]"

def text : Conversion String
  | .scalar _ (.text s) => .ok s
  | .scalar _ (.flag b) => .ok (if b then "true" else "false")
  | .scalar _ (.integer n) => .ok (toString n)
  | .scalar _ (.real x) => .ok x.plain
  | s => .error (.inconvertible s.found "a string" "" s.origin)

/-- The truth value that a word stands for. -/
def flagOfWord? (word : String) : Option Bool :=
  if ["1", "true", "on", "yes"].contains word then some true
  else if ["0", "false", "off", "no"].contains word then some false
  else none

/-- A truth value; a number is true unless it is zero. -/
def flag : Conversion Bool
  | .scalar _ (.flag b) => .ok b
  | .scalar _ (.integer n) => .ok (n != 0)
  | .scalar _ (.real (.finite x)) => .ok (!x.isZero)
  | .scalar _ (.real _) => .ok true
  | .scalar origin (.text s) =>
    let word := Text.lower s
    match flagOfWord? word with
    | some b => .ok b
    | none => .error (.inconvertible (.text word) "a boolean" "" origin)
  | s => .error (.inconvertible s.found "a boolean" "" s.origin)

/-- Convert the items of a list; `index` of them stand before these. -/
def itemsFrom (convert : Conversion α) : Nat → List Setting → Except SettingFault (List α)
  | _, [] => .ok []
  | index, s :: rest => do
    let value ← (convert s).mapError (·.behind (itemStep index))
    let values ← itemsFrom convert (index + 1) rest
    return value :: values

def texts : Conversion (List String)
  | .list _ items => itemsFrom text 0 items
  | s => .error (.wrongType s.found "a sequence")

/-- One of some words, each standing for a value.  The word may also be the only
name in a table. -/
def choice (name : String) (words : List (String × α)) : Conversion α
  | .scalar _ (.text word) => pick word
  | .table _ [(word, _)] => pick word
  | _ => .error (.noChoice name)
where
  /-- The value of a word. -/
  pick (word : String) : Except SettingFault α :=
    match words.find? fun entry => Text.lower entry.1 == Text.lower word with
    | some (_, value) => .ok value
    | none => .error (.unknownChoice name word)

/-- The values of a record by the names of its fields, with the steps that lead
to them. -/
abbrev Fields := String → Option (String × Setting)

/-- The fields of a record, from a table or from the list of them. -/
def fields (record : String) (names : List String) (s : Setting) :
    Except SettingFault Fields :=
  match s with
  | .table _ entries => .ok fun name => (Table.get? entries name).map fun s => (name, s)
  | .list _ items =>
    .ok fun name => (names.idxOf? name).bind fun index =>
      items[index]?.map fun s => (itemStep index, s)
  | s => .error (.wrongType s.found ("struct " ++ record))

def field (fields : Fields) (name : String) (default : α) (convert : Conversion α) :
    Except SettingFault α :=
  match fields name with
  | some (step, s) => (convert s).mapError (·.behind step)
  | none => .ok default

def policy : Conversion Policy := fun s => do
  let given ← fields "RuleConfig"
    ["disabled", "min_severity", "check_nullable_required_parameters",
      "extra_reserved_words"] s
  let default : Policy := {}
  return {
    disabled := ← field given "disabled" default.disabled texts
    minSeverity := ← field given "min_severity" default.minSeverity
      (choice "Severity" (Severity.all.map fun s => (s.word, s)))
    checkNullableRequiredParameters := ← field given "check_nullable_required_parameters"
      default.checkNullableRequiredParameters flag
    extraReservedWords := ← field given "extra_reserved_words" default.extraReservedWords
      texts }

def output : Conversion Output := fun s => do
  let given ← fields "OutputConfig" ["format", "json_style"] s
  let default : Output := {}
  return {
    format := ← field given "format" default.format
      (choice "OutputFormat" (ReportFormat.all.map fun f => (f.word, f)))
    jsonStyle := ← field given "json_style" default.jsonStyle
      (choice "JsonStyle" (JsonStyle.all.map fun s => (s.word, s))) }

/-- Which files in directories are documents. -/
def discovery : Conversion Discovery := fun s => do
  let given ← fields "DiscoveryConfig" ["extensions", "ignore_paths"] s
  let default : Discovery := {}
  return {
    extensions := ← field given "extensions" default.extensions texts
    ignorePaths := ← field given "ignore_paths" default.ignorePaths texts }

def settings : Conversion Settings := fun s => do
  let given ← fields "LintConfig" ["rules", "output", "discovery"] s
  return {
    rules := ← field given "rules" {} policy
    output := ← field given "output" {} output
    discovery := ← field given "discovery" {} discovery }

end Conversion

end ApiReview
