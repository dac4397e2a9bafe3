import ApiReview.Proofs.Settings.Groups
import ApiReview.Proofs.Settings.Printed

/-!
# Loading printed settings again

The settings that were loaded are printed into a new file, which then takes the place
of the file that is asked for.  The environment is put over them once more, and the
same settings are loaded.

Two things are left out.  A variable may set a single item of a group that the files
give as a list; the printed settings give it as a table, of which nothing is left then.
And variables may set items of one list at positions that are counted from its end and
from its start; the former are elsewhere once the latter have made the list longer.
-/

namespace ApiReview

open KeyPath (putAt)

namespace Environment

theorem isTable_layer (environment : Environment) :
    ∀ entry ∈ environment.layer, entry.2.isTable = false := by
  intro entry member
  obtain ⟨⟨name, text⟩, -, given⟩ := List.mem_filterMap.mp member
  obtain ⟨key, -, rfl⟩ := Option.map_eq_some_iff.mp given
  dsimp only [setting]
  split
  · rfl
  · split <;> rfl

end Environment

namespace Settings

variable {place place' : Workplace} {asked : Option String} {c : Settings} {path : String}
  {origin : Origin}

/-- The names of groups and settings are lower-case names without steps. -/
theorem ofText_group (key : SettingKey) :
    KeyPath.ofText key.group = ⟨key.group, []⟩ ∧ Text.lower key.group = key.group ∧
      Text.lower key.name = key.name := by
  cases key <;> decide +kernel

theorem assigns_group (key other : SettingKey) (s : Setting) :
    key.assigns (other.group, s) =
      if other.group = key.group then
        (Setting.valuesOf key.name s.entries).map fun value => ([], value)
      else [] := by
  obtain ⟨path, lower, -⟩ := ofText_group other
  unfold SettingKey.assigns
  rw [path]
  dsimp only
  rw [lower]
  rfl

theorem valuesOf_printedGroup (key : SettingKey) (keys : List SettingKey) :
    Setting.valuesOf key.name (c.printedGroup origin keys).entries =
      (keys.filter fun other => other.name == key.name).map fun other =>
        other.printed origin (other.of c) := by
  have lower : ∀ other : SettingKey, Text.lower other.name = other.name :=
    fun other => (ofText_group other).2.2
  simp only [printedGroup, Setting.entries, Setting.valuesOf, List.filter_map, List.map_map,
    Function.comp_def, lower]

/-- The printed layer assigns to each setting what it is printed as. -/
theorem assigns_printedLayer (key : SettingKey) :
    (c.printedLayer origin).flatMap key.assigns = [([], key.printed origin (key.of c))] := by
  have rules := assigns_group key .disabled
  have output := assigns_group key .format
  have discovery := assigns_group key .extensions
  simp only [SettingKey.group] at rules output discovery
  simp only [printedLayer, List.flatMap_cons, List.flatMap_nil, rules, output, discovery,
    valuesOf_printedGroup]
  cases key <;> simp [SettingKey.name]

theorem tableOfTables_printedLayer (origin : Origin) (c : Settings) :
    Setting.TableOfTables (c.printedLayer origin) := by
  have leads : ∀ (key : SettingKey) keys,
      Setting.leadsToTable (key.group, c.printedGroup origin keys) = true := by
    intro key keys
    obtain ⟨path, -, -⟩ := ofText_group key
    rw [Setting.leadsToTable, path]
    rfl
  refine List.forall_mem_cons.mpr ⟨leads .disabled _, List.forall_mem_cons.mpr
    ⟨leads .format _, List.forall_mem_cons.mpr ⟨leads .extensions _, List.forall_mem_nil _⟩⟩⟩

/-- The printed layer gives each setting, whatever is below it. -/
theorem at?_printedLayer (key : SettingKey) (below : Setting) :
    key.at? ((c.printedLayer origin).foldl Setting.putEntry below) =
      some (key.printed origin (key.of c)) := by
  have kept : ∀ entry ∈ c.printedLayer origin, Setting.replaces key.group entry = false :=
    fun entry member =>
      Setting.replaces_of_leadsToTable (tableOfTables_printedLayer origin c entry member)
  rw [SettingKey.at?_foldl_putEntry kept, assigns_printedLayer]
  change some (putAt _ [] _) = _
  rw [putAt, Setting.mergedOnto_of_not_table (SettingKey.isTable_printed key _)]

section Groups

variable {first second : Setting} {environment : Table Setting}

/-- A setting in a group that nothing has replaced is loaded again. -/
theorem takes_again (key : SettingKey) {origin₁ : Option Origin} {entries₁ : Table Setting}
    (root : environment.foldl Setting.putEntry first = .table origin₁ entries₁)
    (converted : Conversion.settings (.table origin₁ entries₁) = .ok c)
    (printed : key.at? second = some (key.printed origin (key.of c)))
    (wholes : ∀ entry ∈ environment, entry.2.isTable = false)
    (kept : ∀ entry ∈ environment, Setting.replaces key.group entry = false)
    (steady : key.Steady (key.assignsIn environment)) :
    key.Takes (key.at? (environment.foldl Setting.putEntry second)) (key.of c) := by
  obtain ⟨allowed, apart, repeats, areAllowed⟩ :
      ∃ allowed apart, Conversion.Repeats key.convert (key.of c) (key.printed origin (key.of c))
        allowed apart ∧ ∀ entry ∈ key.assignsIn environment, allowed entry.1 :=
    key.repeats (key.of c) steady
  rw [SettingKey.at?_foldl_putEntry kept, printed]
  rcases Setting.holdsTable_or_silent wholes kept first with table | silent
  · obtain ⟨inner, found, isTable⟩ := table
    rw [root] at found
    have tableIfAny : Conversion.TableIfAny (entries₁.get? key.group) := by
      rw [show entries₁.get? key.group = some inner from found]
      rintro s ⟨⟩
      exact isTable
    have takes := Conversion.takes_of_settings converted tableIfAny
    rw [← root, SettingKey.at?_foldl_putEntry kept] at takes
    exact repeats.takes_putAll (SettingKey.isTable_assignsIn wholes) areAllowed takes
  · have nothing : environment.flatMap key.assigns = [] := SettingKey.assignsIn_of_silent silent
    rw [nothing]
    exact repeats.converts

/-- Either both ways have led to the same value of a group, or nothing has replaced the
printed table and each setting in it is loaded again. -/
theorem group_again (key : SettingKey) {origin₁ origin₂ : Option Origin}
    {entries₁ entries₂ : Table Setting}
    (firstRoot : environment.foldl Setting.putEntry first = .table origin₁ entries₁)
    (secondRoot : environment.foldl Setting.putEntry second = .table origin₂ entries₂)
    (converted : Conversion.settings (.table origin₁ entries₁) = .ok c)
    (printed : ∀ other : SettingKey,
      other.at? second = some (other.printed origin (other.of c)))
    (wholes : ∀ entry ∈ environment, entry.2.isTable = false)
    (noItem : Setting.NoItemSet key.group first environment)
    (steady : ∀ other : SettingKey, other.Steady (other.assignsIn environment)) :
    entries₁.get? key.group = entries₂.get? key.group ∨
      Conversion.TableIfAny (entries₂.get? key.group) ∧
        ∀ other : SettingKey, other.group = key.group →
          other.Takes (other.inside? (entries₂.get? key.group)) (other.of c) := by
  have table : second.HoldsTable key.group := SettingKey.isTable_of_inside? (printed key)
  rcases Setting.get?_eq_or_kept wholes table noItem with same | kept
  · rw [firstRoot, secondRoot] at same
    exact .inl same
  · have final : (environment.foldl Setting.putEntry second).HoldsTable key.group := by
      rcases Setting.holdsTable_or_silent wholes kept second with final | silent
      · exact final
      · unfold Setting.HoldsTable
        rw [Setting.get?_foldl_putEntry_silent silent]
        exact table
    rw [secondRoot] at final
    obtain ⟨inner, found, isTable⟩ := final
    refine .inr ⟨?_, ?_⟩
    · rw [show entries₂.get? key.group = some inner from found]
      rintro s ⟨⟩
      exact isTable
    · intro other inGroup
      rw [← inGroup] at kept ⊢
      have takes := takes_again other firstRoot converted (printed other) wholes kept (steady other)
      rw [secondRoot] at takes
      exact takes

end Groups

/-- A workplace in which loaded settings were printed into a new file, which is asked for
then; all other files and the environment are as they were. -/
structure Printed (place : Workplace) (asked : Option String) (c : Settings)
    (place' : Workplace) (path : String) : Prop where
  loaded : load place asked = .ok c
  environment : place'.environment = place.environment
  userFile : userFile? place' = userFile? place
  lower : ∀ lowerPath ∈ fixedPlaces ++ (userFile? place).toList,
    fileLayer place'.files false lowerPath = fileLayer place.files false lowerPath
  file : ∃ file, fileAt place'.files path = .ok (file, .toml) ∧
    readableText place'.files file = .ok c.toToml

/-- The environment sets the same parts of settings wherever it is put over them: no
single item of a group that the files give as a list, and no items of one list of which
some are counted from its start and some from its end. -/
structure Sources.Repeatable (sources : Sources place asked) : Prop where
  noItem : ∀ key : SettingKey, Setting.NoItemSet key.group
    (sources.files.foldl Setting.putLayer .emptyTable) place.environment.layer
  steady : ∀ key : SettingKey, key.Steady (key.assignsIn place.environment.layer)

/-- The sources of the settings that are loaded again. -/
theorem Printed.exists_sources (printed : Printed place asked c place' path)
    (sources : Sources place asked) :
    ∃ (sources' : Sources place' (some path)) (origin : Origin),
      sources'.explicit = c.printedLayer origin := by
  obtain ⟨file, found, text⟩ := printed.file
  have fixed : ∀ lowerPath ∈ fixedPlaces,
      fileLayer place'.files false lowerPath = fileLayer place.files false lowerPath :=
    fun lowerPath member => printed.lower lowerPath (List.mem_append_left _ member)
  have user : optionalLayer place'.files false (userFile? place') = .ok sources.user := by
    rw [printed.userFile, ← sources.user_read]
    cases userPath : userFile? place with
    | none => rfl
    | some path => exact printed.lower path (by simp [userPath])
  refine ⟨{
    first := sources.first
    second := sources.second
    third := sources.third
    user := sources.user
    explicit := c.printedLayer (.file (Path.tidy file))
    first_read := (fixed _ (by simp [fixedPlaces])).trans sources.first_read
    second_read := (fixed _ (by simp [fixedPlaces])).trans sources.second_read
    third_read := (fixed _ (by simp [fixedPlaces])).trans sources.third_read
    user_read := user
    explicit_read := fileLayer_toToml true found text }, _, rfl⟩

/-- The merged layers of the files and of the environment. -/
theorem Sources.foldl_layers (sources : Sources place asked) :
    sources.layers.foldl Setting.putLayer .emptyTable =
      place.environment.layer.foldl Setting.putEntry
        (sources.files.foldl Setting.putLayer .emptyTable) := by
  rw [Sources.layers, List.foldl_append]
  rfl

theorem load_eq_ok_iff (sources : Sources place asked) :
    load place asked = .ok c ↔
      Conversion.settings (sources.layers.foldl Setting.putLayer .emptyTable) = .ok c ∧
        KnownCodes c.rules.disabled := by
  rw [load_eq_ofLayers sources, ofLayers_eq_ok_iff]

theorem Sources.at?_files {sources : Sources place asked}
    (explicit : sources.explicit = c.printedLayer origin) (key : SettingKey) :
    key.at? (sources.files.foldl Setting.putLayer .emptyTable) =
      some (key.printed origin (key.of c)) := by
  rw [Sources.files, explicit]
  exact at?_printedLayer key
    ([sources.first, sources.second, sources.third, sources.user].foldl Setting.putLayer
      .emptyTable)

theorem Sources.isTable_merged (sources : Sources place asked) :
    (sources.layers.foldl Setting.putLayer .emptyTable).isTable = true := by
  rw [Setting.foldl_putLayer]
  exact Setting.isTable_foldl_putEntry rfl

/-- Settings that were printed into a new file are loaded again when it is asked for, with
all other files and the environment as they were. -/
theorem load_printed (sources : Sources place asked) (repeatable : sources.Repeatable)
    (printed : Printed place asked c place' path) : load place' (some path) = .ok c := by
  obtain ⟨sources', origin, explicit⟩ := printed.exists_sources sources
  obtain ⟨converted, known⟩ := (load_eq_ok_iff sources).mp printed.loaded
  refine (load_eq_ok_iff sources').mpr ⟨?_, known⟩
  obtain ⟨origin₁, entries₁, merged₁⟩ := Setting.isTable_iff.mp sources.isTable_merged
  obtain ⟨origin₂, entries₂, merged₂⟩ := Setting.isTable_iff.mp sources'.isTable_merged
  rw [merged₁] at converted
  rw [merged₂]
  rw [Sources.foldl_layers] at merged₁ merged₂
  rw [printed.environment] at merged₂
  -- A variable may have replaced one group and not another, so each is taken by itself.
  have again : ∀ key : SettingKey,
      Table.get? entries₁ key.group = Table.get? entries₂ key.group ∨
        Conversion.TableIfAny (Table.get? entries₂ key.group) ∧
          ∀ other : SettingKey, other.group = key.group →
            other.Takes (other.inside? (Table.get? entries₂ key.group)) (other.of c) := fun key =>
    group_again key merged₁ merged₂ converted (Sources.at?_files explicit)
      (Environment.isTable_layer place.environment) (repeatable.noItem key) repeatable.steady
  obtain ⟨rules, output, discovery⟩ := Conversion.settings_table.mp converted
  refine Conversion.settings_table.mpr ⟨?_, ?_, ?_⟩
  · rcases again .disabled with same | ⟨table, takes⟩
    · exact same ▸ rules
    · exact (Conversion.takes_policy_iff table).mpr takes
  · rcases again .format with same | ⟨table, takes⟩
    · exact same ▸ output
    · exact (Conversion.takes_output_iff table).mpr takes
  · rcases again .extensions with same | ⟨table, takes⟩
    · exact same ▸ discovery
    · exact (Conversion.takes_discovery_iff table).mpr takes

section OneFile

variable {text : String} {environment : Environment} {first : Table Setting}

/-- One file at a fixed place, with others beside it. -/
def filedPlace (text : String) (environment : Environment) (others : Table Node) : Workplace where
  files := { root := ("openapi-lint.toml", .file (.text text)) :: others }
  environment

/-- A new file with printed settings. -/
def printedFile (c : Settings) : Table Node :=
  [("printed.toml", .file (.text c.toToml))]

theorem printed_filedPlace (loaded : load (filedPlace text environment []) none = .ok c) :
    Printed (filedPlace text environment []) none c
      (filedPlace text environment (printedFile c)) "printed.toml" where
  loaded := loaded
  environment := rfl
  userFile := rfl
  lower := by
    have each : ∀ lowerPath ∈ fixedPlaces,
        fileLayer (filedPlace text environment (printedFile c)).files false lowerPath =
          fileLayer (filedPlace text environment []).files false lowerPath :=
      List.forall_mem_cons.mpr ⟨rfl, List.forall_mem_cons.mpr ⟨rfl, List.forall_mem_cons.mpr
        ⟨rfl, List.forall_mem_nil _⟩⟩⟩
    have noUser : userFile? (filedPlace text environment []) = none := rfl
    intro lowerPath member
    exact each lowerPath (by simpa [noUser] using member)
  file := ⟨"printed.toml", rfl, rfl⟩

def filedSources (environment : Environment)
    (read : fileLayer (filedPlace text environment []).files false "openapi-lint.toml" =
      .ok first) : Sources (filedPlace text environment []) none where
  first := first
  second := []
  third := []
  user := []
  explicit := []
  first_read := read
  second_read := rfl
  third_read := rfl
  user_read := rfl
  explicit_read := rfl

/-- The sources when the new file is asked for. -/
def printedSources (environment : Environment)
    (read : fileLayer (filedPlace text environment []).files false "openapi-lint.toml" =
      .ok first) (c : Settings) :
    Sources (filedPlace text environment (printedFile c)) (some "printed.toml") where
  first := first
  second := []
  third := []
  user := []
  explicit := c.printedLayer (.file (Path.tidy "printed.toml"))
  first_read := read
  second_read := rfl
  third_read := rfl
  user_read := rfl
  explicit_read :=
    show fileLayer (filedPlace text environment (printedFile c)).files true "printed.toml" = _ from
      fileLayer_toToml true rfl rfl

end OneFile

/-- A file with a rule that does not exist. -/
def severalText : String :=
  "[rules]\ndisabled = [\"NO_RULE\"]\nextra_reserved_words = [\"a\", \"b\"]"

def severalLayer : Table Setting :=
  let origin := some (Origin.file "openapi-lint.toml")
  [("rules", .table origin [("disabled", .list origin [.scalar origin (.text "NO_RULE")]),
    ("extra_reserved_words",
      .list origin [.scalar origin (.text "a"), .scalar origin (.text "b")])])]

/-- Variables for a list, for an item of another one and for a choice. -/
def severalVariables : Environment :=
  [("OPENAPI_LINT__RULES__DISABLED", "NO_PATHS,EMPTY_ENUM"),
    ("OPENAPI_LINT__RULES__EXTRA_RESERVED_WORDS[1]", "pet"),
    ("openapi_lint__output__format", "JSON")]

def severalSettings : Settings where
  rules := { disabled := ["NO_PATHS", "EMPTY_ENUM"], extraReservedWords := ["a", "pet"] }
  output := { format := .json }

theorem load_printed_several :
    ∃ sources : Sources (filedPlace severalText severalVariables []) none,
      sources.Repeatable ∧
      Printed (filedPlace severalText severalVariables []) none severalSettings
        (filedPlace severalText severalVariables (printedFile severalSettings)) "printed.toml" ∧
      load (filedPlace severalText severalVariables (printedFile severalSettings))
        (some "printed.toml") = .ok severalSettings := by
  have read : fileLayer (filedPlace severalText severalVariables []).files false
      "openapi-lint.toml" = .ok severalLayer := Except.eq_ok_of_toOption (by decide +kernel)
  have named : ∀ entry ∈ severalVariables.layer,
      (KeyPath.ofText entry.1).steps.head? ∈
        [some (.name "disabled"), some (.name "extra_reserved_words"), some (.name "format")] := by
    decide +kernel
  have counted : ∀ key ∈ [SettingKey.disabled, .extraReservedWords, .extensions, .ignorePaths],
      ∀ entry ∈ key.assignsIn severalVariables.layer, entry.1 ∈ [[], [KeyStep.position 1]] := by
    decide +kernel
  have steady : ∀ key ∈ [SettingKey.disabled, .extraReservedWords, .extensions, .ignorePaths],
      ∃ fromEnd, ∀ entry ∈ key.assignsIn severalVariables.layer,
        Conversion.Counts fromEnd entry.1 := by
    intro key isList
    refine ⟨false, fun entry member index rest steps => ?_⟩
    have isCounted := counted key isList entry member
    simp only [steps, List.mem_cons, List.cons.injEq, KeyStep.position.injEq, reduceCtorEq,
      List.not_mem_nil, or_false, false_or] at isCounted
    simp [isCounted.1]
  have repeatable : (filedSources severalVariables read).Repeatable := by
    constructor
    · intro key inner _ _ entry member _ index rest steps
      have isNamed := named entry member
      simp [steps] at isNamed
    · intro key
      cases key with
      | disabled | extraReservedWords | extensions | ignorePaths => exact steady _ (by simp)
      | minSeverity | checkNullableRequiredParameters | format | jsonStyle => trivial
  have given : ofLayers [severalLayer, [], [], [], [], severalVariables.layer] =
      .ok severalSettings := Except.eq_ok_of_toOption (by decide +kernel)
  have printed := printed_filedPlace ((load_eq_ofLayers (filedSources severalVariables read)).trans
    given)
  exact ⟨_, repeatable, printed, load_printed _ repeatable printed⟩

/-- A file that gives a group as a list. -/
def listedText : String :=
  "output = [\"text\", \"compact\"]"

def listedLayer : Table Setting :=
  let origin := some (Origin.file "openapi-lint.toml")
  [("output", .list origin [.scalar origin (.text "text"), .scalar origin (.text "compact")])]

/-- A variable for the first item of the group. -/
def listedVariables : Environment :=
  [("OPENAPI_LINT__OUTPUT[0]", "json")]

def listedSettings : Settings where
  output := { format := .json, jsonStyle := .compact }

/-- A file with a list of two items. -/
def countedText : String :=
  "[rules]\nextra_reserved_words = [\"a\", \"b\"]"

def countedLayer : Table Setting :=
  let origin := some (Origin.file "openapi-lint.toml")
  [("rules", .table origin [("extra_reserved_words",
    .list origin [.scalar origin (.text "a"), .scalar origin (.text "b")])])]

/-- Variables for the last item but one and for a third. -/
def countedVariables : Environment :=
  [("OPENAPI_LINT__RULES__EXTRA_RESERVED_WORDS[-2]", "x"),
    ("OPENAPI_LINT__RULES__EXTRA_RESERVED_WORDS[2]", "y")]

def countedSettings : Settings where
  rules := { extraReservedWords := ["x", "b", "y"] }

/-- What is left out is not loaded again: neither an item of a group that is given as a
list, nor items that are counted from both ends. -/
theorem printed_items_changed :
    (Printed (filedPlace listedText listedVariables []) none listedSettings
        (filedPlace listedText listedVariables (printedFile listedSettings)) "printed.toml" ∧
      load (filedPlace listedText listedVariables (printedFile listedSettings))
        (some "printed.toml") ≠ .ok listedSettings) ∧
    (Printed (filedPlace countedText countedVariables []) none countedSettings
        (filedPlace countedText countedVariables (printedFile countedSettings)) "printed.toml" ∧
      load (filedPlace countedText countedVariables (printedFile countedSettings))
        (some "printed.toml") ≠ .ok countedSettings) := by
  have listedRead : fileLayer (filedPlace listedText listedVariables []).files false
      "openapi-lint.toml" = .ok listedLayer := Except.eq_ok_of_toOption (by decide +kernel)
  have countedRead : fileLayer (filedPlace countedText countedVariables []).files false
      "openapi-lint.toml" = .ok countedLayer := Except.eq_ok_of_toOption (by decide +kernel)
  have listedGiven : ofLayers [listedLayer, [], [], [], [], listedVariables.layer] =
      .ok listedSettings := Except.eq_ok_of_toOption (by decide +kernel)
  have countedGiven : ofLayers [countedLayer, [], [], [], [], countedVariables.layer] =
      .ok countedSettings := Except.eq_ok_of_toOption (by decide +kernel)
  have listedAgain : (ofLayers [listedLayer, [], [], [],
      listedSettings.printedLayer (.file (Path.tidy "printed.toml")),
      listedVariables.layer]).toOption ≠ some listedSettings := by decide +kernel
  have countedAgain : (ofLayers [countedLayer, [], [], [],
      countedSettings.printedLayer (.file (Path.tidy "printed.toml")),
      countedVariables.layer]).toOption ≠ some countedSettings := by decide +kernel
  refine ⟨⟨printed_filedPlace ?_, ?_⟩, ⟨printed_filedPlace ?_, ?_⟩⟩
  · exact (load_eq_ofLayers (filedSources listedVariables listedRead)).trans listedGiven
  · intro loaded
    have again := load_eq_ofLayers (printedSources listedVariables listedRead listedSettings)
    exact listedAgain (congrArg Except.toOption (again.symm.trans loaded))
  · exact (load_eq_ofLayers (filedSources countedVariables countedRead)).trans countedGiven
  · intro loaded
    have again := load_eq_ofLayers (printedSources countedVariables countedRead countedSettings)
    exact countedAgain (congrArg Except.toOption (again.symm.trans loaded))

end Settings

end ApiReview
