import ApiReview.Proofs.Settings.Layers
import ApiReview.Settings.Loading

/-!
# Which layer a setting comes from

Six layers are put over one another.  When each of them is a table of tables, every
setting comes from the last layer that sets it, unless that layer gives it a table or
only a part, and from its default when no layer sets it.  The settings can be loaded
exactly when the value of each of them converts to its type and all rules that are
switched off exist.

A table that is given for a setting does not replace the value below it: the two
are merged.  A name that leads into a setting changes a part of it only.
-/

namespace ApiReview

open Setting (putAll putEntry TableOfTables)

namespace SettingKey

variable {key : SettingKey} {layers : List (Table Setting)} {value : Setting}

/-- What a layer assigns to a setting. -/
def assignsIn (key : SettingKey) (layer : Table Setting) : List (List KeyStep × Setting) :=
  layer.flatMap key.assigns

/-- What layers give a setting: all that they assign to it, put over one another. -/
def given (key : SettingKey) (layers : List (Table Setting)) : Option Setting :=
  putAll (layers.flatMap key.assignsIn) none

/-- The last layer that assigns anything to a setting assigns in the end a certain value
to the whole of it, which is no table. -/
structure LastAssigned (key : SettingKey) (layers : List (Table Setting)) (value : Setting) :
    Prop where
  whole : value.isTable = false
  last : ∃ lower layer upper earlier, layers = lower ++ layer :: upper ∧
    key.assignsIn layer = earlier ++ [([], value)] ∧ ∀ later ∈ upper, key.assignsIn later = []

theorem given_eq_some (last : key.LastAssigned layers value) : key.given layers = some value := by
  obtain ⟨lower, layer, upper, earlier, rfl, assigned, silent⟩ := last.last
  have silentAbove : upper.flatMap key.assignsIn = [] := List.flatMap_eq_nil_iff.mpr silent
  unfold given
  rw [List.flatMap_append, List.flatMap_cons, silentAbove, List.append_nil, assigned,
    ← List.append_assoc, Setting.putAll_concat, KeyPath.putAt,
    Setting.mergedOnto_of_not_table last.whole]

theorem given_eq_none (silent : ∀ layer ∈ layers, key.assignsIn layer = []) :
    key.given layers = none := by
  unfold given
  rw [List.flatMap_eq_nil_iff.mpr silent]
  rfl

/-- Layers that are tables of tables leave under the names of a setting what they
give it. -/
theorem at?_layers (tables : ∀ layer ∈ layers, TableOfTables layer) :
    key.at? (layers.foldl Setting.putLayer .emptyTable) = key.given layers := by
  have kept : ∀ entry ∈ layers.flatten, Setting.replaces key.group entry = false := by
    intro entry member
    obtain ⟨layer, layerMember, entryMember⟩ := List.mem_flatten.mp member
    exact Setting.replaces_of_leadsToTable (tables layer layerMember entry entryMember)
  rw [Setting.foldl_putLayer, at?_foldl_putEntry kept, given]
  have regrouped : layers.flatten.flatMap key.assigns = layers.flatMap key.assignsIn := by
    rw [List.flatten_eq_flatMap, List.flatMap_assoc]
    rfl
  rw [regrouped]
  rfl

end SettingKey

/-- The rule of each code exists. -/
def KnownCodes (codes : List String) : Prop :=
  ∀ code ∈ codes, (Rule.ofCode? (Text.trim code)).isSome = true

theorem Policy.exists_disabledRules_iff {p : Policy} :
    (∃ rules, p.disabledRules = .ok rules) ↔ KnownCodes p.disabled := by
  unfold disabledRules KnownCodes
  rw [Except.exists_mapM_eq_ok_iff]
  refine forall₂_congr fun code _ => ?_
  dsimp only
  cases Rule.ofCode? (Text.trim code) <;> simp

namespace Settings

variable {place : Workplace} {asked : Option String} {c : Settings}

section OfLayers

variable {layers : List (Table Setting)}

theorem ofLayers_eq_ok_iff :
    ofLayers layers = .ok c ↔
      Conversion.settings (layers.foldl Setting.putLayer .emptyTable) = .ok c ∧
        KnownCodes c.rules.disabled := by
  unfold ofLayers
  rw [Except.bind_eq_ok_iff, ← Policy.exists_disabledRules_iff]
  constructor
  · rintro ⟨s, converted, checked⟩
    rw [Except.mapError_eq_ok_iff] at converted
    cases known : s.rules.disabledRules with
    | error code =>
        rw [known] at checked
        cases checked
    | ok rules =>
        rw [known] at checked
        cases checked
        exact ⟨converted, rules, known⟩
  · rintro ⟨converted, rules, known⟩
    refine ⟨c, Except.mapError_eq_ok_iff.mpr converted, ?_⟩
    rw [known]
    rfl

/-- Layers that are tables of tables give each setting for itself. -/
theorem ofLayers_tables (tables : ∀ layer ∈ layers, TableOfTables layer) :
    ofLayers layers = .ok c ↔
      (∀ key : SettingKey, key.Takes (key.given layers) (key.of c)) ∧
        KnownCodes c.rules.disabled := by
  have entriesTables : TableOfTables layers.flatten := by
    intro entry member
    obtain ⟨layer, layerMember, entryMember⟩ := List.mem_flatten.mp member
    exact tables layer layerMember entry entryMember
  have isTable : (layers.foldl Setting.putLayer .emptyTable).isTable = true := by
    rw [Setting.foldl_putLayer]
    exact Setting.isTable_foldl_putEntry rfl
  have holdsTables : (layers.foldl Setting.putLayer .emptyTable).HoldsTables := by
    rw [Setting.foldl_putLayer]
    exact Setting.holdsTables_emptyTable.foldl_putEntry entriesTables
  have given : ∀ key : SettingKey,
      key.at? (layers.foldl Setting.putLayer .emptyTable) = key.given layers :=
    fun _ => SettingKey.at?_layers tables
  obtain ⟨origin, entries, merged⟩ := Setting.isTable_iff.mp isTable
  rw [merged] at holdsTables given
  have converts : Conversion.settings (.table origin entries) = .ok c ↔
      ∀ key : SettingKey, key.Takes (key.at? (.table origin entries)) (key.of c) :=
    Conversion.settings_eq_ok_iff fun key => holdsTables key.group
  rw [ofLayers_eq_ok_iff, merged, converts]
  simp only [given]

/-- The settings are loaded exactly when what is given for each of them converts and all
rules that are switched off exist. -/
theorem exists_ofLayers_tables (tables : ∀ layer ∈ layers, TableOfTables layer) :
    (∃ c, ofLayers layers = .ok c) ↔
      (∀ (key : SettingKey) s, key.given layers = some s →
        ∃ value, key.convert s = .ok value) ∧
      ∀ s codes, SettingKey.disabled.given layers = some s →
        Conversion.texts s = .ok codes → KnownCodes codes := by
  constructor
  · rintro ⟨c, loaded⟩
    obtain ⟨takes, known⟩ := (ofLayers_tables tables).mp loaded
    constructor
    · intro key
      exact Conversion.exists_takes_iff.mp ⟨_, takes key⟩
    · intro s codes given converted
      have disabled := takes .disabled
      rw [given] at disabled
      have same : codes = c.rules.disabled :=
        Except.ok.inj (Eq.trans (Eq.symm converted) disabled)
      rw [same]
      exact known
  · rintro ⟨converts, known⟩
    have each : ∀ key : SettingKey, ∃ value, key.Takes (key.given layers) value :=
      fun key => Conversion.exists_takes_iff.mpr (converts key)
    choose values takes using each
    refine ⟨SettingKey.collect values, (ofLayers_tables tables).mpr ⟨?_, ?_⟩⟩
    · intro key
      rw [SettingKey.of_collect]
      exact takes key
    -- Nothing is switched off when no layer says so.
    · change KnownCodes (values .disabled)
      have disabled := takes .disabled
      cases given : SettingKey.disabled.given layers with
      | none =>
          rw [given] at disabled
          rw [show values .disabled = ([] : List String) from disabled]
          exact List.forall_mem_nil _
      | some s =>
          rw [given] at disabled
          exact known s _ given disabled

end OfLayers

/-- The layer of a file that need not be asked for. -/
def optionalLayer (fs : FileSystem) (required : Bool) :
    Option String → Except SettingsFailure (Table Setting)
  | none => .ok []
  | some path => fileLayer fs required path

/-- The layers of a workplace, where one that is not there is empty. -/
structure Sources (place : Workplace) (asked : Option String) where
  first : Table Setting
  second : Table Setting
  third : Table Setting
  user : Table Setting
  explicit : Table Setting
  first_read : fileLayer place.files false "openapi-lint.toml" = .ok first
  second_read : fileLayer place.files false ".openapi-lint.toml" = .ok second
  third_read : fileLayer place.files false "config/openapi-lint.toml" = .ok third
  user_read : optionalLayer place.files false (userFile? place) = .ok user
  explicit_read : optionalLayer place.files true asked = .ok explicit

/-- The layers in files from the lowest one on. -/
def Sources.files (sources : Sources place asked) : List (Table Setting) :=
  [sources.first, sources.second, sources.third, sources.user, sources.explicit]

/-- All layers from the lowest one on. -/
def Sources.layers (sources : Sources place asked) : List (Table Setting) :=
  sources.files ++ [place.environment.layer]

theorem mapM_optional {fs : FileSystem} {required : Bool} {path : Option String}
    {layer : Table Setting} (read : optionalLayer fs required path = .ok layer) :
    ∃ layers, path.toList.mapM (fileLayer fs required) = .ok layers ∧
      layers.flatten = layer := by
  cases path with
  | none =>
      cases read
      exact ⟨[], rfl, rfl⟩
  | some path =>
      refine ⟨[layer], ?_, by simp⟩
      rw [Option.toList_some, List.mapM_cons, show fileLayer fs required path = .ok layer from read]
      rfl

theorem load_eq_ofLayers (sources : Sources place asked) :
    load place asked = ofLayers sources.layers := by
  obtain ⟨user, userRead, userLayer⟩ := mapM_optional sources.user_read
  obtain ⟨explicit, explicitRead, explicitLayer⟩ := mapM_optional sources.explicit_read
  have lower : (fixedPlaces ++ (userFile? place).toList).mapM (fileLayer place.files false) =
      .ok ([sources.first, sources.second, sources.third] ++ user) := by
    rw [List.mapM_append, userRead, fixedPlaces, List.mapM_cons, sources.first_read,
      List.mapM_cons, sources.second_read, List.mapM_cons, sources.third_read]
    rfl
  have read : Settings.layers place asked = .ok
      ([sources.first, sources.second, sources.third] ++ user ++ explicit ++
        [place.environment.layer]) := by
    unfold Settings.layers
    rw [lower, explicitRead]
    rfl
  have same : ([sources.first, sources.second, sources.third] ++ user ++ explicit ++
      [place.environment.layer]).flatten = sources.layers.flatten := by
    simp [Sources.layers, Sources.files, ← userLayer, ← explicitLayer]
  have merged : ([sources.first, sources.second, sources.third] ++ user ++ explicit ++
      [place.environment.layer]).foldl Setting.putLayer .emptyTable =
        sources.layers.foldl Setting.putLayer .emptyTable := by
    rw [Setting.foldl_putLayer, same, ← Setting.foldl_putLayer]
  rw [load, read]
  change ofLayers _ = _
  unfold ofLayers
  rw [merged]

/-- Every setting takes what the layers give it, and its default when no layer assigns
anything to it; the settings are loaded exactly when these values convert and all
rules that are switched off exist.  What the last layer assigns to the whole of a
setting is what it is given, unless that is a table. -/
theorem load_precedence (sources : Sources place asked)
    (tables : ∀ layer ∈ sources.layers, TableOfTables layer) :
    (∀ c, load place asked = .ok c ↔
      (∀ key : SettingKey, key.Takes (key.given sources.layers) (key.of c)) ∧
        KnownCodes c.rules.disabled) ∧
    ((∃ c, load place asked = .ok c) ↔
      (∀ (key : SettingKey) s, key.given sources.layers = some s →
        ∃ value, key.convert s = .ok value) ∧
      ∀ s codes, SettingKey.disabled.given sources.layers = some s →
        Conversion.texts s = .ok codes → KnownCodes codes) ∧
    (∀ (key : SettingKey) value, key.LastAssigned sources.layers value →
      key.given sources.layers = some value) ∧
    ∀ key : SettingKey, (∀ layer ∈ sources.layers, key.assignsIn layer = []) →
      key.given sources.layers = none := by
  rw [load_eq_ofLayers sources]
  refine ⟨?_, ?_, ?_, ?_⟩
  · intro c
    exact ofLayers_tables tables
  · exact exists_ofLayers_tables tables
  · intro key value
    exact SettingKey.given_eq_some
  · intro key
    exact SettingKey.given_eq_none

/-- A setting that no layer assigns anything to is as it is by default. -/
theorem of_eq_of_silent (sources : Sources place asked)
    (tables : ∀ layer ∈ sources.layers, TableOfTables layer) {key : SettingKey}
    (silent : ∀ layer ∈ sources.layers, key.assignsIn layer = [])
    (loaded : load place asked = .ok c) : key.of c = key.of {} := by
  rw [load_eq_ofLayers sources] at loaded
  have takes := ((ofLayers_tables tables).mp loaded).1 key
  rw [SettingKey.given_eq_none silent] at takes
  rw [SettingKey.of_default]
  exact takes

/-- Without any layer that assigns something all settings are the default ones. -/
theorem load_eq_default (sources : Sources place asked)
    (tables : ∀ layer ∈ sources.layers, TableOfTables layer)
    (silent : ∀ (key : SettingKey), ∀ layer ∈ sources.layers, key.assignsIn layer = []) :
    load place asked = .ok {} := by
  rw [load_eq_ofLayers sources]
  refine (ofLayers_tables tables).mpr ⟨?_, List.forall_mem_nil _⟩
  intro key
  rw [SettingKey.given_eq_none (silent key), SettingKey.of_default]
  rfl

/-- A file with a rule that does not exist, and other rules in the environment. -/
def overriddenPlace : Workplace where
  files :=
    { root := [("openapi-lint.toml", .file (.text
        "[rules]\ndisabled = [\"NO_RULE\"]\n[output]\nformat = \"JSON\"\n"))] }
  environment := [("OPENAPI_LINT__RULES__DISABLED", "PARSE_ERROR,NO_PATHS")]

def overriddenSources : Sources overriddenPlace none where
  first :=
    let origin := some (Origin.file "openapi-lint.toml")
    [("rules", .table origin [("disabled", .list origin [.scalar origin (.text "NO_RULE")])]),
      ("output", .table origin [("format", .scalar origin (.text "JSON"))])]
  second := []
  third := []
  user := []
  explicit := []
  first_read := Except.eq_ok_of_toOption (by decide +kernel)
  second_read := rfl
  third_read := rfl
  user_read := rfl
  explicit_read := rfl

theorem load_precedence_overridden :
    (∀ layer ∈ overriddenSources.layers, TableOfTables layer) ∧
      load overriddenPlace none =
        .ok { rules := { disabled := ["PARSE_ERROR", "NO_PATHS"] },
              output := { format := .json } } := by
  have tables : ∀ layer ∈ overriddenSources.layers, TableOfTables layer := by
    unfold TableOfTables
    decide +kernel
  obtain ⟨loads, -, assigned, silent⟩ := load_precedence overriddenSources tables
  have disabled := assigned .disabled
    (.list (some .environment)
      [.scalar (some .environment) (.text "PARSE_ERROR"),
        .scalar (some .environment) (.text "NO_PATHS")])
    ⟨rfl, overriddenSources.layers.dropLast, overriddenPlace.environment.layer, [], [],
      by decide +kernel, by decide +kernel, by simp⟩
  have format := assigned .format
    (.scalar (some (.file "openapi-lint.toml")) (.text "JSON"))
    ⟨rfl, [], overriddenSources.first, overriddenSources.layers.tail, [],
      rfl, by decide +kernel, by decide +kernel⟩
  have others : ∀ key ∈ [SettingKey.minSeverity, .checkNullableRequiredParameters,
      .extraReservedWords, .jsonStyle, .extensions, .ignorePaths],
      ∀ layer ∈ overriddenSources.layers, key.assignsIn layer = [] := by decide +kernel
  refine ⟨tables, (loads _).mpr ⟨?_, by unfold KnownCodes; decide +kernel⟩⟩
  intro key
  cases key with
  | disabled =>
      rw [disabled]
      rfl
  | format =>
      rw [format]
      rfl
  | minSeverity | checkNullableRequiredParameters | extraReservedWords | jsonStyle | extensions
  | ignorePaths =>
      rw [silent _ (others _ (by simp))]
      rfl

/-- Two files that each give the severity as a table of one word. -/
def severityTwice : Workplace where
  files :=
    { root :=
        [("openapi-lint.toml", .file (.text "[rules.min_severity]\nwarning = 1\n")),
          (".openapi-lint.toml", .file (.text "[rules.min_severity]\nerror = 1\n"))] }

/-- The severity that one of the two files gives. -/
def severityTable (path word : String) : Setting :=
  .table (some (.file path)) [(word, .scalar (some (.file path)) (.integer 1))]

/-- The layer of one of the two files. -/
def severityLayer (path word : String) : Table Setting :=
  [("rules", .table (some (.file path)) [("min_severity", severityTable path word)])]

def severityTwiceSources : Sources severityTwice none where
  first := severityLayer "openapi-lint.toml" "warning"
  second := severityLayer ".openapi-lint.toml" "error"
  third := []
  user := []
  explicit := []
  first_read := Except.eq_ok_of_toOption (by decide +kernel)
  second_read := Except.eq_ok_of_toOption (by decide +kernel)
  third_read := rfl
  user_read := rfl
  explicit_read := rfl

/-- The tables are merged, so that the last of them, which would do by itself, does
not count. -/
theorem severityTwice_unusable :
    ∃ (sources : Sources severityTwice none) (last : Setting),
      (∀ layer ∈ sources.layers, TableOfTables layer) ∧
      SettingKey.minSeverity.assignsIn sources.second = [([], last)] ∧
      SettingKey.minSeverity.convert last = .ok Severity.error ∧
      (∀ layer ∈ [sources.third, sources.user, sources.explicit, severityTwice.environment.layer],
        SettingKey.minSeverity.assignsIn layer = []) ∧
      (∀ key : SettingKey, key ≠ .minSeverity →
        ∀ layer ∈ sources.layers, key.assignsIn layer = []) ∧
      ¬∃ c, load severityTwice none = .ok c := by
  refine ⟨severityTwiceSources, severityTable ".openapi-lint.toml" "error",
    ?_, ?_, rfl, ?_, ?_, ?_⟩
  · unfold TableOfTables
    decide +kernel
  · decide +kernel
  · decide +kernel
  · have others : ∀ key ∈ [SettingKey.disabled, .checkNullableRequiredParameters,
        .extraReservedWords, .format, .jsonStyle, .extensions, .ignorePaths],
        ∀ layer ∈ severityTwiceSources.layers, key.assignsIn layer = [] := by decide +kernel
    intro key other
    refine others key ?_
    cases key <;> simp at other ⊢
  · rintro ⟨c, loaded⟩
    have failed : (load severityTwice none).isOk = false := by decide +kernel
    rw [loaded] at failed
    cases failed

end Settings

end ApiReview
