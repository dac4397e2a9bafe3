import ApiReview.Proofs.Settings.Repeating
import ApiReview.Proofs.Toml.WrittenTables
import ApiReview.Settings.Loading

/-!
# Printed settings

Settings are printed as a TOML text with each of them.  The layer that is read from
a file with this text gives the whole of every setting and nothing else.
-/

namespace ApiReview

open Conversion (Repeats Counts)

namespace SettingKey

/-- What a setting is printed as, in a file that is read again. -/
def printed (origin : Option Origin) : (key : SettingKey) → key.Value → Setting
  | disabled, texts | extraReservedWords, texts | extensions, texts | ignorePaths, texts =>
      Conversion.printedTexts origin texts
  | minSeverity, severity => .scalar origin (.text severity.word)
  | checkNullableRequiredParameters, b => .scalar origin (.flag b)
  | format, f => .scalar origin (.text f.word)
  | jsonStyle, style => .scalar origin (.text style.word)

/-- Steps into a setting each of which leads to the same part of what was printed: the
items of a list are all counted from its start, or all from its end. -/
def Steady (key : SettingKey) (assigned : List (List KeyStep × Setting)) : Prop :=
  match key with
  | disabled | extraReservedWords | extensions | ignorePaths =>
      ∃ fromEnd, ∀ entry ∈ assigned, Counts fromEnd entry.1
  | minSeverity | checkNullableRequiredParameters | format | jsonStyle => True

variable {origin : Option Origin}

theorem isTable_printed (key : SettingKey) (value : key.Value) :
    (key.printed origin value).isTable = false := by
  cases key <;> rfl

/-- A value of each choice is what its word stands for. -/
theorem pick_word :
    (∀ s : Severity, Conversion.choice.pick "Severity" (Severity.all.map fun s => (s.word, s))
      s.word = .ok s) ∧
    (∀ f : ReportFormat, Conversion.choice.pick "OutputFormat"
      (ReportFormat.all.map fun f => (f.word, f)) f.word = .ok f) ∧
    ∀ s : JsonStyle, Conversion.choice.pick "JsonStyle"
      (JsonStyle.all.map fun s => (s.word, s)) s.word = .ok s := by
  refine ⟨fun s => ?_, fun f => ?_, fun s => ?_⟩
  · cases s <;> exact Except.eq_ok_of_toOption (by decide +kernel)
  · cases f <;> exact Except.eq_ok_of_toOption (by decide +kernel)
  · cases s <;> exact Except.eq_ok_of_toOption (by decide +kernel)

theorem repeats (key : SettingKey) (value : key.Value)
    {assigned : List (List KeyStep × Setting)} (steady : key.Steady assigned) :
    ∃ allowed apart, Repeats key.convert value (key.printed origin value) allowed apart ∧
      ∀ entry ∈ assigned, allowed entry.1 := by
  obtain ⟨severity, format, style⟩ := pick_word
  cases key with
  | disabled | extraReservedWords | extensions | ignorePaths =>
      obtain ⟨fromEnd, counts⟩ := steady
      exact ⟨_, _, Conversion.texts_repeats fromEnd origin value, counts⟩
  | minSeverity =>
      exact ⟨fun _ => True, _, Conversion.choice_repeats origin (severity value) _,
        fun _ _ => trivial⟩
  | checkNullableRequiredParameters =>
      exact ⟨fun _ => True, _, Conversion.flag_repeats origin value _, fun _ _ => trivial⟩
  | format =>
      exact ⟨fun _ => True, _, Conversion.choice_repeats origin (format value) _,
        fun _ _ => trivial⟩
  | jsonStyle =>
      exact ⟨fun _ => True, _, Conversion.choice_repeats origin (style value) _,
        fun _ _ => trivial⟩

end SettingKey

namespace Settings

variable {c : Settings} {origin : Origin}

/-- The entries of a group in the layer that printed settings are read as. -/
def printedGroup (origin : Origin) (c : Settings) (keys : List SettingKey) : Setting :=
  .table origin (keys.map fun key => (key.name, key.printed origin (key.of c)))

/-- The layer that printed settings are read as. -/
def printedLayer (origin : Origin) (c : Settings) : Table Setting :=
  [("rules", c.printedGroup origin
      [.disabled, .minSeverity, .checkNullableRequiredParameters, .extraReservedWords]),
    ("output", c.printedGroup origin [.format, .jsonStyle]),
    ("discovery", c.printedGroup origin [.extensions, .ignorePaths])]

theorem plain_toSections (c : Settings) : ∀ s ∈ c.toSections, s.Plain := by
  refine List.forall_mem_cons.mpr ⟨?_, List.forall_mem_cons.mpr ⟨?_, List.forall_mem_cons.mpr
    ⟨?_, List.forall_mem_nil _⟩⟩⟩
  · exact .of_names
      ["disabled", "min_severity", "check_nullable_required_parameters", "extra_reserved_words"]
      (show Toml.IsBare "rules" by decide) rfl (by decide +kernel) (by decide +kernel)
  · exact .of_names ["format", "json_style"]
      (show Toml.IsBare "output" by decide) rfl (by decide +kernel) (by decide +kernel)
  · exact .of_names ["extensions", "ignore_paths"]
      (show Toml.IsBare "discovery" by decide) rfl (by decide +kernel) (by decide +kernel)

theorem ofTomlItems_texts (texts : List String) :
    Setting.ofTomlItems origin (texts.map .text) =
      texts.map fun t => .scalar origin (.text t) := by
  induction texts with
  | nil => rfl
  | cons t texts ih =>
      rw [List.map_cons, Setting.ofTomlItems, ih]
      rfl

theorem ofToml_texts (texts : List String) :
    Setting.ofToml origin (.list (texts.map .text)) = Conversion.printedTexts origin texts := by
  rw [Setting.ofToml, ofTomlItems_texts]
  rfl

/-- What is read of the printed settings. -/
theorem ofToml_toSections (origin : Origin) (c : Settings) :
    Setting.ofTomlEntries origin (c.toSections.map fun s => (s.name, .table s.values)) =
      c.printedLayer origin := by
  simp only [toSections, List.map_cons, List.map_nil, Toml.Section.values, Toml.Entry.value,
    Setting.ofTomlEntries, Setting.ofToml.eq_7, ofToml_texts, printedLayer, printedGroup]
  rfl

theorem withoutMark_toToml (c : Settings) : withoutMark c.toToml = c.toToml := by
  have start : ∃ others, c.toToml.toList = '[' :: others := by
    rw [toToml, Toml.toList_written]
    exact ⟨_, rfl⟩
  obtain ⟨others, start⟩ := start
  have noMark : Text.dropOpening? "\ufeff" c.toToml = none := by
    unfold Text.dropOpening?
    rw [start]
    rfl
  rw [withoutMark, noMark]
  rfl

theorem layer?_toToml (origin : Origin) (c : Settings) :
    SettingsFormat.toml.layer? origin (withoutMark c.toToml) = some (c.printedLayer origin) := by
  have distinct : (c.toSections.map Toml.Section.name).Nodup :=
    show ["rules", "output", "discovery"].Nodup by decide
  have read : Toml.read c.toToml =
      some (c.toSections.map fun s => (s.name, .table s.values)) :=
    Toml.read_written c.toSections (plain_toSections c) distinct
  have value : SettingsFormat.toml.value? origin c.toToml =
      some (.table origin (c.printedLayer origin)) := by
    rw [SettingsFormat.value?, read, ← ofToml_toSections]
    rfl
  rw [withoutMark_toToml, SettingsFormat.layer?, value]

/-- A file that holds printed settings is read as a layer that gives each of them. -/
theorem fileLayer_toToml {fs : FileSystem} {path file : String} (required : Bool)
    (found : fileAt fs path = .ok (file, .toml)) (text : readableText fs file = .ok c.toToml) :
    fileLayer fs required path = .ok (c.printedLayer (.file (Path.tidy file))) := by
  unfold fileLayer
  rw [found]
  simp only [bind, Except.bind, text, Except.mapError, pure, Except.pure]
  rw [layer?_toToml]

end Settings

end ApiReview
