import ApiReview.Proofs.Reading.Yields
import ApiReview.Proofs.Table
import ApiReview.Settings.Conversion

/-!
# The settings one by one

Each setting has a name in one of three groups, a conversion to its type and a
default.  Settings that are given as a table of tables are converted one by one:
what one of them becomes depends on the value under its own names only.
-/

namespace ApiReview

namespace Setting

def isTable : Setting → Bool
  | .table _ _ => true
  | _ => false

theorem isTable_iff {s : Setting} :
    s.isTable = true ↔ ∃ origin entries, s = .table origin entries := by
  cases s <;> simp [isTable]

end Setting

namespace Conversion

variable {α : Type} {convert : Conversion α} {default a : α}

/-- A setting becomes `a`: its value converts to `a`, or `a` is the default and it
has no value. -/
def Takes (convert : Conversion α) (default : α) (given : Option Setting) (a : α) : Prop :=
  match given with
  | none => a = default
  | some s => convert s = .ok a

theorem exists_takes_iff {given : Option Setting} :
    (∃ a, Takes convert default given a) ↔ ∀ s, given = some s → ∃ a, convert s = .ok a := by
  cases given with
  | none => simp [Takes]
  | some s => simp [Takes]

/-- The fields of a record that is given as a table. -/
def tableFields (entries : Table Setting) : Fields :=
  fun name => (entries.get? name).map fun s => (name, s)

theorem field_tableFields {entries : Table Setting} {name : String} :
    field (tableFields entries) name default convert = .ok a ↔
      Takes convert default (entries.get? name) a := by
  unfold field tableFields Takes
  cases entries.get? name with
  | none => simp [eq_comm]
  | some s => exact Except.mapError_eq_ok_iff

end Conversion

/-- All that can be set, one by one. -/
inductive SettingKey where
  | disabled
  | minSeverity
  | checkNullableRequiredParameters
  | extraReservedWords
  | format
  | jsonStyle
  | extensions
  | ignorePaths
deriving DecidableEq, Repr

namespace SettingKey

/-- The name of the table that a setting stands in. -/
def group : SettingKey → String
  | disabled | minSeverity | checkNullableRequiredParameters | extraReservedWords => "rules"
  | format | jsonStyle => "output"
  | extensions | ignorePaths => "discovery"

def name : SettingKey → String
  | disabled => "disabled"
  | minSeverity => "min_severity"
  | checkNullableRequiredParameters => "check_nullable_required_parameters"
  | extraReservedWords => "extra_reserved_words"
  | format => "format"
  | jsonStyle => "json_style"
  | extensions => "extensions"
  | ignorePaths => "ignore_paths"

/-- The type of a setting. -/
def Value : SettingKey → Type
  | disabled | extraReservedWords | extensions | ignorePaths => List String
  | minSeverity => Severity
  | checkNullableRequiredParameters => Bool
  | format => ReportFormat
  | jsonStyle => JsonStyle

/-- How the value of a setting is converted to its type. -/
def convert : (key : SettingKey) → Conversion key.Value
  | disabled | extraReservedWords | extensions | ignorePaths => Conversion.texts
  | minSeverity => Conversion.choice "Severity" (Severity.all.map fun s => (s.word, s))
  | checkNullableRequiredParameters => Conversion.flag
  | format => Conversion.choice "OutputFormat" (ReportFormat.all.map fun f => (f.word, f))
  | jsonStyle => Conversion.choice "JsonStyle" (JsonStyle.all.map fun s => (s.word, s))

/-- What a setting is when nothing sets it. -/
def default : (key : SettingKey) → key.Value
  | disabled | extraReservedWords | ignorePaths => ([] : List String)
  | minSeverity => Severity.info
  | checkNullableRequiredParameters => false
  | format => ReportFormat.text
  | jsonStyle => JsonStyle.pretty
  | extensions => (["json", "yaml", "yml"] : List String)

/-- One of the settings. -/
def of : (key : SettingKey) → Settings → key.Value
  | disabled, s => s.rules.disabled
  | minSeverity, s => s.rules.minSeverity
  | checkNullableRequiredParameters, s => s.rules.checkNullableRequiredParameters
  | extraReservedWords, s => s.rules.extraReservedWords
  | format, s => s.output.format
  | jsonStyle, s => s.output.jsonStyle
  | extensions, s => s.discovery.extensions
  | ignorePaths, s => s.discovery.ignorePaths

/-- The settings with the given values. -/
def collect (values : (key : SettingKey) → key.Value) : Settings where
  rules :=
    { disabled := values disabled
      minSeverity := values minSeverity
      checkNullableRequiredParameters := values checkNullableRequiredParameters
      extraReservedWords := values extraReservedWords }
  output := { format := values format, jsonStyle := values jsonStyle }
  discovery := { extensions := values extensions, ignorePaths := values ignorePaths }

theorem of_collect (values : (key : SettingKey) → key.Value) (key : SettingKey) :
    key.of (collect values) = values key := by
  cases key <;> rfl

theorem of_default (key : SettingKey) : key.of {} = key.default := by
  cases key <;> rfl

/-- A setting takes a value from what it is given. -/
def Takes (key : SettingKey) (given : Option Setting) (value : key.Value) : Prop :=
  Conversion.Takes key.convert key.default given value

/-- What stands under the name of a setting in its group, if the group is there. -/
def inside? (key : SettingKey) (group : Option Setting) : Option Setting :=
  group.bind fun s => s.entries.get? key.name

/-- What stands under the names of a setting. -/
def at? (key : SettingKey) (root : Setting) : Option Setting :=
  key.inside? (root.entries.get? key.group)

theorem group_cases (key : SettingKey) :
    key.group = "rules" ∨ key.group = "output" ∨ key.group = "discovery" := by
  cases key <;> simp [group]

section ForAll

variable {motive : SettingKey → Prop}

theorem forall_rules : (∀ key : SettingKey, key.group = "rules" → motive key) ↔
    motive disabled ∧ motive minSeverity ∧ motive checkNullableRequiredParameters ∧
      motive extraReservedWords := by
  constructor
  · intro all
    exact ⟨all _ rfl, all _ rfl, all _ rfl, all _ rfl⟩
  · rintro ⟨one, two, three, four⟩ key inRules
    cases key <;> first | assumption | exact absurd inRules (by decide)

theorem forall_output : (∀ key : SettingKey, key.group = "output" → motive key) ↔
    motive format ∧ motive jsonStyle := by
  constructor
  · intro all
    exact ⟨all _ rfl, all _ rfl⟩
  · rintro ⟨one, two⟩ key inOutput
    cases key <;> first | assumption | exact absurd inOutput (by decide)

theorem forall_discovery : (∀ key : SettingKey, key.group = "discovery" → motive key) ↔
    motive extensions ∧ motive ignorePaths := by
  constructor
  · intro all
    exact ⟨all _ rfl, all _ rfl⟩
  · rintro ⟨one, two⟩ key inDiscovery
    cases key <;> first | assumption | exact absurd inDiscovery (by decide)

end ForAll

end SettingKey

namespace Conversion

variable {origin : Option Origin} {entries : Table Setting}

theorem policy_table {p : Policy} :
    policy (.table origin entries) = .ok p ↔
      Takes texts [] (entries.get? "disabled") p.disabled ∧
      Takes (choice "Severity" (Severity.all.map fun s => (s.word, s))) .info
        (entries.get? "min_severity") p.minSeverity ∧
      Takes flag false (entries.get? "check_nullable_required_parameters")
        p.checkNullableRequiredParameters ∧
      Takes texts [] (entries.get? "extra_reserved_words") p.extraReservedWords := by
  change (field (tableFields entries) "disabled" [] texts >>= fun one =>
    field (tableFields entries) "min_severity" Severity.info _ >>= fun two =>
    field (tableFields entries) "check_nullable_required_parameters" false flag >>= fun three =>
    field (tableFields entries) "extra_reserved_words" [] texts >>= fun four =>
    Except.ok (Policy.mk one two three four)) = Except.ok p ↔ _
  simp only [Except.bind_eq_ok_iff, field_tableFields, Except.ok.injEq]
  constructor
  · rintro ⟨one, first, two, second, three, third, four, fourth, rfl⟩
    exact ⟨first, second, third, fourth⟩
  · rintro ⟨first, second, third, fourth⟩
    exact ⟨_, first, _, second, _, third, _, fourth, rfl⟩

theorem output_table {o : Output} :
    output (.table origin entries) = .ok o ↔
      Takes (choice "OutputFormat" (ReportFormat.all.map fun f => (f.word, f))) .text
        (entries.get? "format") o.format ∧
      Takes (choice "JsonStyle" (JsonStyle.all.map fun s => (s.word, s))) .pretty
        (entries.get? "json_style") o.jsonStyle := by
  change (field (tableFields entries) "format" ReportFormat.text _ >>= fun one =>
    field (tableFields entries) "json_style" JsonStyle.pretty _ >>= fun two =>
    Except.ok (Output.mk one two)) = Except.ok o ↔ _
  simp only [Except.bind_eq_ok_iff, field_tableFields, Except.ok.injEq]
  constructor
  · rintro ⟨one, first, two, second, rfl⟩
    exact ⟨first, second⟩
  · rintro ⟨first, second⟩
    exact ⟨_, first, _, second, rfl⟩

theorem discovery_table {d : Discovery} :
    discovery (.table origin entries) = .ok d ↔
      Takes texts ["json", "yaml", "yml"] (entries.get? "extensions") d.extensions ∧
      Takes texts [] (entries.get? "ignore_paths") d.ignorePaths := by
  change (field (tableFields entries) "extensions" _ texts >>= fun one =>
    field (tableFields entries) "ignore_paths" [] texts >>= fun two =>
    Except.ok (Discovery.mk one two)) = Except.ok d ↔ _
  simp only [Except.bind_eq_ok_iff, field_tableFields, Except.ok.injEq]
  constructor
  · rintro ⟨one, first, two, second, rfl⟩
    exact ⟨first, second⟩
  · rintro ⟨first, second⟩
    exact ⟨_, first, _, second, rfl⟩

theorem settings_table {c : Settings} :
    settings (.table origin entries) = .ok c ↔
      Takes policy {} (entries.get? "rules") c.rules ∧
      Takes output {} (entries.get? "output") c.output ∧
      Takes discovery {} (entries.get? "discovery") c.discovery := by
  change (field (tableFields entries) "rules" {} policy >>= fun one =>
    field (tableFields entries) "output" {} output >>= fun two =>
    field (tableFields entries) "discovery" {} discovery >>= fun three =>
    Except.ok (Settings.mk one two three)) = Except.ok c ↔ _
  simp only [Except.bind_eq_ok_iff, field_tableFields, Except.ok.injEq]
  constructor
  · rintro ⟨one, first, two, second, three, third, rfl⟩
    exact ⟨first, second, third⟩
  · rintro ⟨first, second, third⟩
    exact ⟨_, first, _, second, _, third, rfl⟩

section Groups

variable {group : Option Setting} {c : Settings}

/-- There is nothing or a table. -/
def TableIfAny (group : Option Setting) : Prop :=
  ∀ s, group = some s → s.isTable = true

theorem tableIfAny_none : TableIfAny none := by
  rintro s ⟨⟩

theorem TableIfAny.cases (table : TableIfAny group) :
    group = none ∨ ∃ origin entries, group = some (.table origin entries) := by
  cases group with
  | none => exact .inl rfl
  | some s =>
      obtain ⟨origin, entries, rfl⟩ := Setting.isTable_iff.mp (table s rfl)
      exact .inr ⟨origin, entries, rfl⟩

theorem takes_policy_iff (table : TableIfAny group) :
    Takes policy {} group c.rules ↔
      ∀ key : SettingKey, key.group = "rules" → key.Takes (key.inside? group) (key.of c) := by
  rw [SettingKey.forall_rules]
  rcases table.cases with rfl | ⟨origin, entries, rfl⟩
  · change c.rules = {} ↔ c.rules.disabled = [] ∧ c.rules.minSeverity = .info ∧
      c.rules.checkNullableRequiredParameters = false ∧ c.rules.extraReservedWords = []
    generalize c.rules = p
    cases p
    simp
  · exact policy_table

theorem takes_output_iff (table : TableIfAny group) :
    Takes output {} group c.output ↔
      ∀ key : SettingKey, key.group = "output" → key.Takes (key.inside? group) (key.of c) := by
  rw [SettingKey.forall_output]
  rcases table.cases with rfl | ⟨origin, entries, rfl⟩
  · change c.output = {} ↔ c.output.format = .text ∧ c.output.jsonStyle = .pretty
    generalize c.output = o
    cases o
    simp
  · exact output_table

theorem takes_discovery_iff (table : TableIfAny group) :
    Takes discovery {} group c.discovery ↔
      ∀ key : SettingKey, key.group = "discovery" →
        key.Takes (key.inside? group) (key.of c) := by
  rw [SettingKey.forall_discovery]
  rcases table.cases with rfl | ⟨origin, entries, rfl⟩
  · change c.discovery = {} ↔ c.discovery.extensions = ["json", "yaml", "yml"] ∧
      c.discovery.ignorePaths = []
    generalize c.discovery = d
    cases d
    simp
  · exact discovery_table

variable {key : SettingKey}

/-- A setting in a group that is a table takes what stands under its name, whatever
the other groups are. -/
theorem takes_of_settings (ok : settings (.table origin entries) = .ok c)
    (table : TableIfAny (entries.get? key.group)) :
    key.Takes (key.at? (.table origin entries)) (key.of c) := by
  obtain ⟨rules, output, discovery⟩ := settings_table.mp ok
  unfold SettingKey.at?
  change key.Takes (key.inside? (entries.get? key.group)) _
  rcases key.group_cases with inGroup | inGroup | inGroup <;> rw [inGroup] at table ⊢
  · exact (takes_policy_iff table).mp rules key inGroup
  · exact (takes_output_iff table).mp output key inGroup
  · exact (takes_discovery_iff table).mp discovery key inGroup

/-- A table of tables becomes the settings whose members are what stands under their
names, each of them for itself. -/
theorem settings_eq_ok_iff
    (tables : ∀ key : SettingKey, TableIfAny (entries.get? key.group)) :
    settings (.table origin entries) = .ok c ↔
      ∀ key : SettingKey, key.Takes (key.at? (.table origin entries)) (key.of c) := by
  constructor
  · intro ok key
    exact takes_of_settings ok (tables key)
  · intro takes
    have inGroup : ∀ name, ∀ key : SettingKey, key.group = name →
        key.Takes (key.inside? (entries.get? name)) (key.of c) := by
      rintro name key rfl
      exact takes key
    refine settings_table.mpr ⟨?_, ?_, ?_⟩
    · exact (takes_policy_iff (tables .disabled)).mpr (inGroup "rules")
    · exact (takes_output_iff (tables .format)).mpr (inGroup "output")
    · exact (takes_discovery_iff (tables .extensions)).mpr (inGroup "discovery")

end Groups

end Conversion

end ApiReview
