import ApiReview.Proofs.Reading.Yields
import ApiReview.Yaml.FromText
import Mathlib.Tactic.SplitIfs

/-!
# Values that were read from YAML texts

What a reading gives is described by a property that holds wherever in the events of a
text the reading begins and however many aliases were followed.  An alias is read as the
node it stands for, so it gives what that node gives.
-/

namespace ApiReview

namespace FromYaml

open Yaml (Event Failure Mark Position)

variable {α β σ : Type} {p : α → Prop} {q : β → Prop} {keeps : σ → Prop}

/-- Every value that is read has a property. -/
def Gives (p : α → Prop) (s : StateT Position (Except Failure) α) : Prop :=
  ∀ position value after, s position = .ok (value, after) → p value

section Steps

variable {s : StateT Position (Except Failure) α} {f : α → StateT Position (Except Failure) β}

theorem gives_true (s : StateT Position (Except Failure) α) : Gives (fun _ => True) s :=
  fun _ _ _ _ => trivial

theorem gives_mono {weaker : α → Prop} (gives : Gives p s)
    (imp : ∀ value, p value → weaker value) : Gives weaker s :=
  fun position value after done => imp value (gives position value after done)

theorem gives_pure {value : α} (holds : p value) :
    Gives p (pure value : StateT Position (Except Failure) α) := by
  rintro position _ after ⟨⟩
  exact holds

theorem gives_throw (failure : Failure) :
    Gives p (throw failure : StateT Position (Except Failure) α) :=
  fun _ _ _ stopped => by cases stopped

theorem gives_bind (first : Gives p s) (next : ∀ value, p value → Gives q (f value)) :
    Gives q (s >>= f) := by
  intro position value after done
  obtain ⟨⟨given, reached⟩, ran, done⟩ := Except.bind_eq_ok done
  exact next given (first position given reached ran) reached value after done

/-- What is read may not matter to what comes behind it. -/
theorem gives_behind (next : ∀ value, Gives q (f value)) : Gives q (s >>= f) :=
  gives_bind (gives_true s) fun value _ => next value

end Steps

variable {read : FromYaml α} {around : Yaml.Surroundings}

theorem gives_complain (c : Complaint) (around : Yaml.Surroundings) :
    Gives p (complain c around) :=
  gives_throw _

theorem gives_placed {mark : Mark} (gives : Gives p (read around)) :
    Gives p (placed mark read around) := by
  intro position value after done
  exact gives position value after (Except.mapError_eq_ok_iff.mp done)

/-- An alias gives what the node gives that it stands for. -/
theorem gives_follow {number : Nat} (gives : ∀ around, Gives p (read around)) :
    Gives p (follow number read around) := by
  refine gives_behind fun back => ?_
  extract_lets jumps goOn
  have followed (go : Unit) : Gives p (goOn go) := by
    dsimp only [goOn]
    split
    · exact gives_throw _
    · exact gives_behind fun _ => gives_bind (gives _) fun value holds =>
        gives_behind fun _ => gives_pure holds
  split_ifs
  · exact gives_behind followed
  · exact followed ()

theorem gives_fromEvent {use : Event → Mark → FromYaml α}
    (gives : ∀ event mark around, Gives p (use event mark around)) :
    Gives p (fromEvent use around) := by
  refine gives_behind fun ⟨event, mark⟩ => gives_placed ?_
  split
  · exact gives_follow fun around => gives_behind fun ⟨event, mark⟩ =>
      gives_placed (gives event mark around)
  · exact gives _ _ _

/-- A complaint about the type of a value gives none. -/
theorem gives_mistyped (event : Event) (wanted : String) :
    Gives p (mistyped event wanted around) := by
  cases event with
  | scalar tag text style =>
      cases found : Yaml.ScalarValue.ofScalar tag text style with
      | error c =>
          rw [mistyped, found]
          exact gives_complain _ _
      | ok value =>
          rw [mistyped, found]
          exact gives_complain _ _
  | nothing => exact gives_throw _
  | _ => exact gives_complain _ around

theorem gives_optionalHere (gives : ∀ around, Gives p (read around)) :
    Gives (fun value => ∀ a, value = some a → p a) (optionalHere read around) := by
  unfold optionalHere
  extract_lets absent present
  have noneGiven : Gives (fun value => ∀ a, value = some a → p a) absent :=
    gives_behind fun _ => gives_pure nofun
  have oneGiven : Gives (fun value => ∀ a, value = some a → p a) present :=
    gives_bind (gives around) fun a holds => gives_pure fun b same => Option.some.inj same ▸ holds
  refine gives_behind fun ⟨event, mark⟩ => ?_
  dsimp only
  split
  · exact noneGiven
  · split
    · exact oneGiven
    split
    · split
      · exact noneGiven
      · exact oneGiven
    · split
      · exact oneGiven
      split
      · exact noneGiven
      · exact gives_complain _ _
  · exact oneGiven

theorem gives_optional (gives : ∀ around, Gives p (read around)) :
    Gives (fun value => ∀ a, value = some a → p a) (optional read around) := by
  refine gives_behind fun ⟨event, mark⟩ => ?_
  dsimp only
  split
  · exact gives_behind fun _ => gives_follow fun _ => gives_optionalHere gives
  · exact gives_optionalHere gives

theorem gives_nested {mark : Mark} (gives : ∀ around, Gives p (read around)) :
    Gives p (nested mark read around) := by
  unfold nested
  split
  · exact gives_throw _
  · exact gives _

theorem gives_items (gives : ∀ around, Gives p (read around)) (fuel index : Nat) :
    Gives (fun values => ∀ value ∈ values, p value) (items read fuel index around) := by
  induction fuel generalizing index with
  | zero => exact gives_pure (List.forall_mem_nil p)
  | succ fuel ih =>
      refine gives_behind fun ⟨event, mark⟩ => ?_
      dsimp only
      split_ifs
      · exact gives_behind fun _ => gives_pure (List.forall_mem_nil p)
      · refine gives_bind (gives _) fun value holds => gives_bind (ih _) fun rest others => ?_
        exact gives_pure (List.forall_mem_cons.mpr ⟨holds, others⟩)

theorem gives_members {key : σ → FromYaml β} {value : β → σ → FromYaml σ}
    (step : ∀ name s around, keeps s → Gives keeps (value name s around)) (fuel : Nat) {s : σ}
    (start : keeps s) : Gives keeps (members key value fuel s around) := by
  induction fuel generalizing s with
  | zero => exact gives_pure start
  | succ fuel ih =>
      refine gives_behind fun ⟨event, mark⟩ => ?_
      dsimp only
      split_ifs
      · exact gives_behind fun _ => gives_pure start
      · exact gives_behind fun name => gives_bind (step name s _ start) fun _ kept => ih kept

theorem gives_mapping {mark : Mark} {key : σ → FromYaml β} {value : β → σ → FromYaml σ}
    (step : ∀ name s around, keeps s → Gives keeps (value name s around)) {s : σ}
    (start : keeps s) : Gives keeps (mapping mark s key value around) :=
  gives_nested fun _ => gives_members step _ start

theorem gives_list (gives : ∀ around, Gives p (read around)) :
    Gives (fun values => ∀ value ∈ values, p value) (list read around) := by
  refine gives_fromEvent fun event mark around => ?_
  split
  · exact gives_nested fun _ => gives_items gives _ _
  · split_ifs
    · exact gives_pure (List.forall_mem_nil p)
    · exact gives_mistyped _ _

theorem gives_table (gives : ∀ around, Gives p (read around)) :
    Gives (Table.Canonical p) (table read around) := by
  refine gives_fromEvent fun event mark around => ?_
  split
  · refine gives_mapping (fun name t around canonical => ?_) .nil
    exact gives_bind (gives around) fun value holds => gives_pure (canonical.put holds)
  · split_ifs
    · exact gives_pure .nil
    · exact gives_mistyped _ _

theorem gives_fieldValue {fields : List (Field FromYaml σ)}
    (all : ∀ field ∈ fields, ∀ around, Gives (Preserves keeps) (field.read around))
    (name : String) {state : List String × σ} (kept : keeps state.2) :
    Gives (fun state => keeps state.2) (fieldValue fields name state around) := by
  unfold fieldValue
  split
  · exact gives_behind fun _ => gives_pure kept
  next field found =>
    have preserved := all field (List.mem_of_find?_eq_some found) around
    exact gives_bind preserved fun change preserves => gives_pure (preserves state.2 kept)

theorem gives_record {fields : List (Field FromYaml σ)} {start : σ} (kept : keeps start)
    (all : ∀ field ∈ fields, ∀ around, Gives (Preserves keeps) (field.read around))
    (name : String) : Gives keeps (record name fields start around) := by
  have step : ∀ name (state : List String × σ) around, keeps state.2 →
      Gives (fun state => keeps state.2) (fieldValue fields name state around) :=
    fun name _ _ => gives_fieldValue all name
  refine gives_fromEvent fun event mark around => ?_
  dsimp only
  split
  · refine gives_bind (gives_mapping step kept) fun state kept => ?_
    split
    · exact gives_complain _ _
    · exact gives_pure kept
  · split_ifs
    · split
      · exact gives_complain _ _
      · exact gives_pure kept
    · exact gives_mistyped _ _

/-- What is read from YAML texts.  Nothing is said of untyped values: their keys need not be
texts, and their numbers can be infinite. -/
def tracking : Format.Tracking FromYaml where
  Gives p read := ∀ around, Gives p (read around)
  inputs _ := True
  closed := ⟨fun _ _ _ _ => trivial, fun _ _ _ _ _ => trivial⟩
  any read around := gives_true (read around)
  mono gives imp around := gives_mono (gives around) imp
  map gives around := gives_bind (gives around) fun _ holds => gives_pure holds
  delay gives := gives
  optional gives _ := gives_optional gives
  list gives _ := gives_list gives
  table gives _ := gives_table gives
  record kept all _ := gives_record kept all _
  decide yields _ := gives_behind fun u => by
    split
    next value read => exact gives_pure (yields u value trivial read)
    next => exact gives_complain _ _

end FromYaml

/-- What holds of everything that a reading gives holds of what it gives for a whole text. -/
theorem Yaml.readText_gives {α : Type} {p : α → Prop} {read : FromYaml α}
    (gives : ∀ around, FromYaml.Gives p (read around)) {text : String} {a : α}
    (done : Yaml.readText read text = .ok a) : p a := by
  obtain ⟨⟨value, after⟩, ran, done⟩ := Except.bind_eq_ok done
  have holds := gives _ _ value after ran
  dsimp only at done
  split at done
  · cases done
    exact holds
  all_goals cases done

end ApiReview
