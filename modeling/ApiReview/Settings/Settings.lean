import ApiReview.Settings.Discovery
import ApiReview.Settings.Output
import ApiReview.Settings.Policy
import ApiReview.Toml.Printer

/-!
# Settings

All that can be set: which findings are kept, how a report is printed, and which
files in directories are documents.
-/

namespace ApiReview

/-- All that can be set. -/
structure Settings where
  rules : Policy := {}
  output : Output := {}
  discovery : Discovery := {}
deriving DecidableEq, Repr, Inhabited

namespace Settings

open ApiReview.Field (defaulted)

/-- Settings as an untyped value holds them. -/
def read : FromUntyped Settings :=
  Format.record "LintConfig"
    [defaulted "rules" Policy.read fun v s => { s with rules := v },
     defaulted "output" Output.read fun v s => { s with output := v },
     defaulted "discovery" Discovery.read fun v s => { s with discovery := v }]
    {}

def toJson (s : Settings) : Json.Value :=
  .object
    [("rules", s.rules.toJson), ("output", s.output.toJson),
     ("discovery", s.discovery.toJson)]

/-- Settings as the sections of a TOML text. -/
def toSections (s : Settings) : List Toml.Section :=
  [⟨"rules",
     [("disabled", .texts s.rules.disabled),
      ("min_severity", .text s.rules.minSeverity.word),
      ("check_nullable_required_parameters", .flag s.rules.checkNullableRequiredParameters),
      ("extra_reserved_words", .texts s.rules.extraReservedWords)]⟩,
   ⟨"output",
     [("format", .text s.output.format.word),
      ("json_style", .text s.output.jsonStyle.word)]⟩,
   ⟨"discovery",
     [("extensions", .texts s.discovery.extensions),
      ("ignore_paths", .texts s.discovery.ignorePaths)]⟩]

/-- Settings as a TOML text that sets each of them. -/
def toToml (s : Settings) : String :=
  Toml.written s.toSections

end Settings

end ApiReview
