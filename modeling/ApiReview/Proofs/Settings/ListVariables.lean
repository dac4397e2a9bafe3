import ApiReview.Proofs.Number.NumberTexts
import ApiReview.Proofs.Settings.Precedence
import ApiReview.Proofs.Settings.Repeating
import ApiReview.Proofs.Text.Cut

/-!
# A variable for a list

Nothing is set but one list, by a variable.  The list becomes the pieces of the text between
its commas, and all other settings keep their defaults.  A text that looks like a truth value
or a number is not cut, and what it is taken for is no list: the settings cannot be loaded.
-/

namespace ApiReview

variable {text : String}

namespace Environment

/-- A text that is taken for a truth value or a number. -/
def LooksTyped (text : String) : Prop :=
  Text.lower text = "true" ∨ Text.lower text = "false" ∨ NumberText text.toList

theorem numberText_of_intOfText? {n : Int} (read : intOfText? text = some n) :
    NumberText text.toList := by
  have isInteger : Signed NaturalText text.toList :=
    intOfText?_isSome_iff.mp (by rw [read, Option.isSome_some])
  obtain ⟨sign, digits, optional, same, natural⟩ := isInteger
  refine ⟨sign, digits, optional, same, .inl ?_⟩
  have decimal := DecimalText.whole natural .absent
  rwa [List.append_nil] at decimal

theorem scalar?_isSome_iff : (scalar? text).isSome ↔ LooksTyped text := by
  unfold scalar? LooksTyped
  rw [← Binary64.ofText?_isSome_iff]
  by_cases yes : Text.lower text = "true"
  · simp [yes]
  · by_cases no : Text.lower text = "false"
    · simp [no]
    · simp only [yes, no, beq_iff_eq, if_false, false_or]
      split
      · next n fits =>
        obtain ⟨read, -⟩ := Option.filter_eq_some_iff.mp fits
        simp [Binary64.ofText?_isSome_iff, numberText_of_intOfText? read]
      · simp

/-- One variable sets something, and it gives a text to a path. -/
def SetsOnly (environment : Environment) (path text : String) : Prop :=
  ∃ before name after, environment = before ++ (name, text) :: after ∧ key? name = some path ∧
    ∀ other ∈ before ++ after, key? other.1 = none

theorem SetsOnly.layer_eq {environment : Environment} {path : String}
    (only : environment.SetsOnly path text) : environment.layer = [(path, setting path text)] := by
  obtain ⟨before, name, after, rfl, found, silent⟩ := only
  have nothing : ∀ part : Environment, (∀ other ∈ part, key? other.1 = none) →
      part.layer = [] := by
    intro part silent
    refine List.filterMap_eq_nil_iff.mpr ?_
    intro other member
    simp [silent other member]
  obtain ⟨silentBefore, silentAfter⟩ := List.forall_mem_append.mp silent
  have beforeNothing := nothing before silentBefore
  have afterNothing := nothing after silentAfter
  unfold layer at beforeNothing afterNothing ⊢
  rw [List.filterMap_append, List.filterMap_cons, beforeNothing, afterNothing]
  simp [found]

end Environment

/-- The lists that may hold any texts.  The list of rules that are switched off is none of them:
its texts have to be codes of rules. -/
inductive ListSetting where
  | extraReservedWords
  | extensions
  | ignorePaths

namespace ListSetting

def key : ListSetting → SettingKey
  | extraReservedWords => .extraReservedWords
  | extensions => .extensions
  | ignorePaths => .ignorePaths

def path (list : ListSetting) : String :=
  list.key.group ++ "." ++ list.key.name

/-- The settings of which only this one is not the default. -/
def settings (list : ListSetting) (texts : List String) : Settings :=
  match list with
  | extraReservedWords => { rules := { extraReservedWords := texts } }
  | extensions => { discovery := { extensions := texts } }
  | ignorePaths => { discovery := { ignorePaths := texts } }

/-- A root with nothing in it but one value for this setting. -/
def alone (list : ListSetting) (value : Setting) : Setting :=
  .table none [(list.key.group, .table none [(list.key.name, value)])]

open Conversion (texts)

variable {list : ListSetting} {value : Setting}

theorem ofText_path (list : ListSetting) :
    KeyPath.ofText list.path = ⟨list.key.group, [.name list.key.name]⟩ ∧
      Text.lower list.key.group = list.key.group ∧ Text.lower list.key.name = list.key.name := by
  cases list <;> decide +kernel

theorem putLayer_path (whole : value.isTable = false) :
    Setting.emptyTable.putLayer [(list.path, value)] = list.alone value := by
  obtain ⟨path, group, name⟩ := list.ofText_path
  change Setting.emptyTable.putEntry (list.path, value) = _
  rw [Setting.putEntry_eq, path]
  simp only [group, KeyPath.putAt, name, Setting.mergedOnto_of_not_table whole]
  rfl

/-- Only the conversion of this setting can fail. -/
theorem settings_alone (list : ListSetting) (value : Setting) :
    Conversion.settings (list.alone value) =
      ((texts value).mapError fun fault =>
        (fault.behind list.key.name).behind list.key.group).map list.settings := by
  cases list with
  | extraReservedWords =>
    change ((texts value).mapError _ >>= fun words =>
      Except.ok ({ extraReservedWords := words } : Policy)).mapError _ >>= (fun rules =>
      Except.ok ({ rules } : Settings)) = _
    cases texts value <;> rfl
  | extensions =>
    change ((texts value).mapError _ >>= fun extensions =>
      Except.ok ({ extensions } : Discovery)).mapError _ >>= (fun discovery =>
      Except.ok ({ discovery } : Settings)) = _
    cases texts value <;> rfl
  | ignorePaths =>
    change ((texts value).mapError _ >>= fun ignorePaths =>
      Except.ok ({ ignorePaths } : Discovery)).mapError _ >>= (fun discovery =>
      Except.ok ({ discovery } : Settings)) = _
    cases texts value <;> rfl

end ListSetting

namespace Settings

variable {place : Workplace} {list : ListSetting}

/-- No file sets anything. -/
def Unfiled (place : Workplace) : Prop :=
  ∀ path ∈ fixedPlaces ++ (userFile? place).toList, fileLayer place.files false path = .ok []

def Unfiled.sources (unfiled : Unfiled place) : Sources place none where
  first := []
  second := []
  third := []
  user := []
  explicit := []
  first_read := unfiled _ (by simp [fixedPlaces])
  second_read := unfiled _ (by simp [fixedPlaces])
  third_read := unfiled _ (by simp [fixedPlaces])
  user_read := by
    cases found : userFile? place with
    | none => rfl
    | some path => exact unfiled path (by simp [found])
  explicit_read := rfl

theorem load_unfiled (unfiled : Unfiled place) :
    load place none = ofLayers [place.environment.layer] :=
  load_eq_ofLayers unfiled.sources

theorem ofLayers_path {value : Setting} (whole : value.isTable = false) :
    ofLayers [[(list.path, value)]] =
      ((Conversion.texts value).mapError fun fault =>
        .badValue ((fault.behind list.key.name).behind list.key.group)).map list.settings := by
  have merged : [[(list.path, value)]].foldl Setting.putLayer .emptyTable = list.alone value :=
    ListSetting.putLayer_path whole
  unfold ofLayers
  rw [merged]
  dsimp only
  rw [ListSetting.settings_alone]
  cases Conversion.texts value with
  | error fault => rfl
  | ok texts =>
    -- no rule is switched off in these settings, so that none has to exist
    cases list <;> rfl

/-- When nothing but one list is set, by a variable, the list becomes the pieces of the text
between its commas, unless the text looks like a truth value or a number.  If it does, the
settings cannot be loaded. -/
theorem load_list_variable (unfiled : Unfiled place)
    (only : place.environment.SetsOnly list.path text) :
    (¬Environment.LooksTyped text →
      Text.Pieces ',' text (Text.cutAt ',' text) ∧
        load place none = .ok (list.settings (Text.cutAt ',' text))) ∧
    (Environment.LooksTyped text → ∃ scalar, Environment.scalar? text = some scalar ∧
      load place none = .error (.badValue
        (.wrongType (Setting.scalar (some .environment) scalar).found "a sequence"))) := by
  rw [load_unfiled unfiled, only.layer_eq, ← Environment.scalar?_isSome_iff]
  constructor
  · intro untyped
    refine ⟨Text.pieces_cutAt ',' text, ?_⟩
    have isText : Environment.scalar? text = none := by simpa using untyped
    have isList : Environment.listKeys.contains list.path = true := by
      cases list <;> decide
    have given : Environment.setting list.path text =
        Conversion.printedTexts (some .environment) (Text.cutAt ',' text) := by
      simp only [Environment.setting, isText, isList, if_true]
      rfl
    rw [given, ofLayers_path rfl, Conversion.texts_printedTexts]
    rfl
  · intro typed
    obtain ⟨scalar, taken⟩ := Option.isSome_iff_exists.mp typed
    have given : Environment.setting list.path text = .scalar (some .environment) scalar := by
      simp only [Environment.setting, taken]
    refine ⟨scalar, taken, ?_⟩
    rw [given, ofLayers_path rfl]
    rfl

/-- A place without files, and a variable for the paths to leave out. -/
def ignoringPlace (text : String) : Workplace where
  environment := [("OPENAPI_LINT__DISCOVERY__IGNORE_PATHS", text)]

theorem unfiled_ignoringPlace (text : String) : Unfiled (ignoringPlace text) :=
  List.forall_mem_cons.mpr ⟨rfl, List.forall_mem_cons.mpr ⟨rfl, List.forall_mem_cons.mpr
    ⟨rfl, List.forall_mem_nil _⟩⟩⟩

theorem setsOnly_ignoringPlace (text : String) :
    (ignoringPlace text).environment.SetsOnly ListSetting.ignorePaths.path text :=
  ⟨[], _, [], rfl, by decide +kernel, List.forall_mem_nil _⟩

theorem load_list_variable_directories :
    Environment.LooksTyped "2024" ∧
      load (ignoringPlace "2024") none =
        .error (.badValue (.wrongType (.integer 2024) "a sequence")) ∧
    ¬Environment.LooksTyped "2024,vendor" ∧
      load (ignoringPlace "2024,vendor") none =
        .ok { discovery := { ignorePaths := ["2024", "vendor"] } } := by
  have typed : Environment.LooksTyped "2024" :=
    Environment.scalar?_isSome_iff.mp (by decide +kernel)
  have untyped : ¬Environment.LooksTyped "2024,vendor" := by
    rw [← Environment.scalar?_isSome_iff]
    decide +kernel
  obtain ⟨scalar, taken, failed⟩ :=
    (load_list_variable (unfiled_ignoringPlace "2024") (setsOnly_ignoringPlace "2024")).2 typed
  obtain ⟨-, loaded⟩ :=
    (load_list_variable (unfiled_ignoringPlace "2024,vendor")
      (setsOnly_ignoringPlace "2024,vendor")).1 untyped
  have isNumber : Environment.scalar? "2024" = some (.integer 2024) := by decide +kernel
  have cut : Text.cutAt ',' "2024,vendor" = ["2024", "vendor"] := by decide +kernel
  rw [isNumber] at taken
  cases taken
  rw [cut] at loaded
  exact ⟨typed, failed, untyped, loaded⟩

end Settings

end ApiReview
