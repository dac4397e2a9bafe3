import ApiReview.Files.Tree
import ApiReview.Settings.Conversion
import ApiReview.Settings.Environment
import ApiReview.Settings.Format

/-!
# Loading settings

Six layers are put over the defaults, each over the ones before it: three files
at fixed places, the file of the user, the file that is asked for, and the
environment.  Only the file that is asked for has to be there.  The extension of
a file may be left out.
-/

namespace ApiReview

/-- Why settings cannot be loaded. -/
inductive SettingsFailure where
  /-- A file is not well-formed. -/
  | notWellFormed (file : String)
  | missingFile (path : String)
  /-- The extension of a file stands for no format. -/
  | unknownFormat (path : String)
  | unreadable (fault : ReadFault)
  | badValue (fault : SettingFault)
  /-- A rule that is switched off does not exist. -/
  | unknownRule (code : String)
deriving Repr

namespace SettingsFailure

/-- What a failure of the files or of their values says; that a rule does not
exist is none of these. -/
def cause : SettingsFailure → String
  | .notWellFormed file => "not well-formed in " ++ file
  | .missingFile path => "configuration file \"" ++ path ++ "\" not found"
  | .unknownFormat path =>
    "configuration file \"" ++ path ++ "\" is not of a registered file format"
  | .unreadable fault => fault.message
  | .badValue fault => fault.message
  | .unknownRule code => Finding.unknownCode code

def message : SettingsFailure → String
  | .unknownRule code => Finding.unknownCode code
  | f => "Configuration error: " ++ f.cause

end SettingsFailure

/-- All that settings and documents are taken from. -/
structure Workplace where
  files : FileSystem := {}
  environment : Environment := []
  /-- The directory with the settings of the user. -/
  userDirectory : Option String := none

namespace Settings

/-- The places of files that are looked for in the working directory. -/
def fixedPlaces : List String :=
  ["openapi-lint.toml", ".openapi-lint.toml", "config/openapi-lint.toml"]

/-- The place of the file of the user inside of their directory. -/
def userPlace (directory : String) : String :=
  Path.below directory ["openapi-lint", "openapi-lint.toml"]

/-- The file that a path stands for, with its format: the path itself, or the
path with one of the known extensions behind it. -/
def fileAt (fs : FileSystem) (path : String) :
    Except SettingsFailure (String × SettingsFormat) :=
  if fs.isFile path then
    match (Path.extension? path).bind SettingsFormat.ofExtension? with
    | some format => .ok (path, format)
    | none => .error (.unknownFormat path)
  else
    let candidate (extension : String) : Option (String × SettingsFormat) := do
      let longer ← Path.withExtension? path extension
      if fs.isFile longer then
        return (longer, ← SettingsFormat.ofExtension? extension)
      none
    match SettingsFormat.extensions.findSome? candidate with
    | some found => .ok found
    | none => .error (.missingFile path)

/-- What can be read of a file of settings, whether it is a text or not. -/
def readableText (fs : FileSystem) (path : String) : Except ReadFault String :=
  match fs.find path with
  | .ok (.file (.broken readable)) => .ok readable
  | _ => fs.readText path

/-- The text of a file without the byte order mark at its start. -/
def withoutMark (text : String) : String :=
  (Text.dropOpening? "\ufeff" text).getD text

/-- The layer in the file that a path stands for; a file that may be missing is
an empty layer when it cannot be read. -/
def fileLayer (fs : FileSystem) (required : Bool) (path : String) :
    Except SettingsFailure (Table Setting) :=
  let source : Except SettingsFailure (String × SettingsFormat × String) := do
    let (file, format) ← fileAt fs path
    let text ← (readableText fs file).mapError .unreadable
    return (Path.tidy file, format, withoutMark text)
  match source with
  | .error failure => if required then .error failure else .ok []
  | .ok (file, format, text) =>
    match format.layer? (.file file) text with
    | some layer => .ok layer
    | none => .error (.notWellFormed file)

/-- The file of the user, if it is there. -/
def userFile? (place : Workplace) : Option String :=
  (place.userDirectory.map userPlace).filter fun path =>
    match place.files.find path with
    | .ok _ => true
    | .error _ => false

/-- The layers from the lowest one on. -/
def layers (place : Workplace) (asked : Option String) :
    Except SettingsFailure (List (Table Setting)) := do
  let lower ← (fixedPlaces ++ (userFile? place).toList).mapM (fileLayer place.files false)
  let explicit ← asked.toList.mapM (fileLayer place.files true)
  return lower ++ explicit ++ [place.environment.layer]

/-- The settings that some layers give, from the lowest one on. -/
def ofLayers (layers : List (Table Setting)) : Except SettingsFailure Settings := do
  let merged := layers.foldl Setting.putLayer .emptyTable
  let settings ← (Conversion.settings merged).mapError .badValue
  match settings.rules.disabledRules with
  | .ok _ => return settings
  | .error code => throw (.unknownRule code)

/-- Load the settings, with the file that is asked for if there is one. -/
def load (place : Workplace) (asked : Option String) : Except SettingsFailure Settings := do
  ofLayers (← layers place asked)

end Settings

end ApiReview
