import ApiReview.Json.FromText
import ApiReview.Proofs.Reading.JsonInputs

/-!
# Values that were read from JSON texts

The values that scanners give are described by properties that hold whatever the
text is and wherever in it a scanner starts; readings of lists, tables and records
take them over from the readings inside of them.  The numeral of an integer that
does not fit 64 bits is read as a binary64 number, so all integers in a JSON value
that was read from a text fit.
-/

namespace ApiReview

open Json (Value)

namespace Json

theorem fitDigits_le {digits : List Char} {significand used : Nat}
    (small : significand ≤ maxWord) : (fitDigits digits significand used).1 ≤ maxWord := by
  induction digits generalizing significand used with
  | nil => exact small
  | cons d rest ih =>
      rw [fitDigits]
      split_ifs with tooLarge
      · exact small
      · exact ih (Nat.le_of_not_lt tooLarge)

namespace Scanner

variable {α β σ : Type} {p : α → Prop} {q : β → Prop}

/-- Every value that a scanner gives has a property. -/
def Gives (s : Scanner α) (property : α → Prop) : Prop :=
  ∀ c value c', s c = (.ok value, c') → property value

theorem bind_apply (s : Scanner α) (f : α → Scanner β) (c : Cursor) :
    (s >>= f) c = match s c with
      | (.ok value, c') => f value c'
      | (.error failure, c') => (.error failure, c') := by
  simp only [bind, ExceptT.bind, ExceptT.mk, StateT.bind, ExceptT.bindCont]
  rcases s c with ⟨_ | _, _⟩ <;> rfl

theorem gives_true (s : Scanner α) : s.Gives fun _ => True :=
  fun _ _ _ _ => trivial

theorem gives_pure {value : α} (holds : p value) : Gives (pure value) p := by
  rintro c _ c' ⟨⟩
  exact holds

theorem gives_bind {s : Scanner α} {f : α → Scanner β} (first : s.Gives p)
    (next : ∀ value, p value → (f value).Gives q) : Gives (s >>= f) q := by
  intro c value c' done
  rw [bind_apply] at done
  rcases ran : s c with ⟨_ | given, reached⟩
  · rw [ran] at done
    cases done
  · rw [ran] at done
    exact next given (first c given reached ran) reached value c' done

/-- What a scanner gives may not matter to what comes behind it. -/
theorem gives_behind {s : Scanner α} {f : α → Scanner β}
    (next : ∀ value, (f value).Gives q) : Gives (s >>= f) q :=
  gives_bind (gives_true s) fun value _ => next value

theorem gives_mono {s : Scanner α} {weaker : α → Prop} (gives : s.Gives p)
    (imp : ∀ value, p value → weaker value) : s.Gives weaker :=
  fun c value c' done => imp value (gives c value c' done)

theorem gives_placed {s : Scanner α} (gives : s.Gives p) : (placed s).Gives p := by
  intro c value c' done
  rcases ran : s c with ⟨_ | given, reached⟩
  · rw [placed, ran] at done
    cases done
  · rw [placed, ran] at done
    cases done
    exact gives c _ _ ran

theorem gives_map {s : Scanner α} {f : α → β} (gives : s.Gives fun value => q (f value)) :
    Gives (f <$> s) q := by
  rw [← bind_pure_comp]
  exact gives_bind gives fun _ holds => gives_pure holds

theorem gives_faultHere (f : Fault) : Gives (faultHere f) p :=
  gives_behind fun _ _ _ _ stopped => by cases stopped

theorem gives_faultNext (f : Fault) : Gives (faultNext f) p :=
  gives_behind fun _ _ _ _ stopped => by cases stopped

theorem gives_complain (complaint : Complaint) : Gives (complain complaint) p :=
  fun _ _ _ stopped => by cases stopped

section Numerals

variable {negative : Bool} {significand : Nat}

theorem gives_real (exponent : Int) :
    (real negative significand exponent).Gives fun n => n.fits = true := by
  unfold real
  split
  · exact gives_pure rfl
  · exact gives_faultHere _

theorem gives_exponent (start : Int) :
    (exponent negative significand start).Gives fun n => n.fits = true := by
  unfold exponent
  refine gives_behind fun _ => gives_behind fun sign => ?_
  extract_lets behindSign
  have behind (down : Bool) : (behindSign down).Gives fun n => n.fits = true := by
    refine gives_behind fun next => ?_
    split
    · exact gives_faultHere _
    split
    · exact gives_faultNext _
    refine gives_behind fun _ => gives_behind fun cursor => gives_behind fun value => ?_
    split
    split
    · split
      · exact gives_faultHere _
      · exact gives_behind fun _ => gives_pure rfl
    · exact gives_real _
  split
  · exact gives_behind fun _ => gives_behind behind
  · exact gives_behind fun _ => gives_behind behind
  · exact gives_behind behind

theorem gives_afterDigits (start : Int) :
    (afterDigits negative significand start).Gives fun n => n.fits = true := by
  refine gives_behind fun next => ?_
  split
  · exact gives_exponent _
  · exact gives_exponent _
  · exact gives_real _

theorem gives_fraction (start : Int) :
    (fraction negative significand start).Gives fun n => n.fits = true := by
  refine gives_behind fun _ => gives_behind fun ds => ?_
  split
  · refine gives_behind fun next => ?_
    split <;> exact gives_faultNext _
  · exact gives_afterDigits _

/-- The whole part of an integer is at most the largest word, and with a minus
sign it is no integer unless it fits a signed one. -/
theorem gives_afterWhole {dropped : Nat} (small : significand ≤ maxWord) :
    (afterWhole negative significand dropped).Gives fun n => n.fits = true := by
  have words : maxWord = 2 ^ 64 - 1 ∧ twoTo (64 - 1) = 2 ^ 63 ∧ twoTo 64 = 2 ^ 64 :=
    ⟨rfl, rfl, rfl⟩
  refine gives_behind fun next => ?_
  split
  · exact gives_fraction _
  · exact gives_exponent _
  · exact gives_exponent _
  split_ifs with cut positive large
  · exact gives_real _
  · refine gives_pure ?_
    simp only [Number.fits, fitsUnsigned, Bool.or_eq_true, Bool.and_eq_true, decide_eq_true_eq]
    omega
  · split
    · exact gives_pure rfl
    · exact gives_faultHere _
  · refine gives_pure ?_
    simp only [Bool.or_eq_true, decide_eq_true_eq, not_or, show 63 = 64 - 1 from rfl] at large
    simp only [Number.fits, fitsSigned, Bool.or_eq_true, Bool.and_eq_true, decide_eq_true_eq]
    omega

theorem gives_numeral : (numeral negative).Gives fun n => n.fits = true := by
  refine gives_behind fun next => ?_
  split
  · exact gives_faultHere _
  · refine gives_behind fun _ => gives_behind fun second => ?_
    split
    · split_ifs
      · exact gives_faultNext _
      · exact gives_afterWhole (Nat.zero_le _)
    · exact gives_afterWhole (Nat.zero_le _)
  · split_ifs
    · exact gives_behind fun ds => gives_afterWhole (fitDigits_le (Nat.zero_le _))
    · exact gives_faultNext _

end Numerals

end Scanner

end Json

namespace Untyped

variable {property : Value → Prop}

theorem fromJson_sequence
    (array : ∀ items, (∀ v ∈ items, property v) → property (.array items))
    {untyped : List Untyped} (items : ∀ u ∈ untyped, FromJson property u) :
    FromJson property (.sequence untyped) := by
  have given : ∃ values, (∀ v ∈ values, property v) ∧ ofJsonItems values = untyped := by
    induction untyped with
    | nil => exact ⟨[], by simp, rfl⟩
    | cons u rest ih =>
        obtain ⟨⟨v, holds, rfl⟩, others⟩ := List.forall_mem_cons.mp items
        obtain ⟨values, inside, rfl⟩ := ih others
        exact ⟨v :: values, List.forall_mem_cons.mpr ⟨holds, inside⟩, rfl⟩
  obtain ⟨values, inside, rfl⟩ := given
  exact ⟨.array values, array values inside, rfl⟩

/-- An entry of an untyped value as an object has it. -/
def FromMember (property : Value → Prop) (entry : Untyped × Untyped) : Prop :=
  ∃ name, entry.1 = .text name ∧ FromJson property entry.2

theorem fromJson_mapping
    (object : ∀ members : Table Value, (∀ name v, (name, v) ∈ members → property v) →
      property (.object members))
    {entries : List (Untyped × Untyped)} (all : ∀ entry ∈ entries, FromMember property entry) :
    FromJson property (.mapping entries) := by
  have given : ∃ members : Table Value, (∀ name v, (name, v) ∈ members → property v) ∧
      ofJsonMembers members = entries := by
    induction entries with
    | nil => exact ⟨[], by simp, rfl⟩
    | cons entry rest ih =>
        obtain ⟨key, u⟩ := entry
        obtain ⟨⟨name, rfl, v, holds, rfl⟩, others⟩ := List.forall_mem_cons.mp all
        obtain ⟨members, inside, rfl⟩ := ih others
        refine ⟨(name, v) :: members, fun other w member => ?_, rfl⟩
        rcases List.mem_cons.mp member with same | member
        · cases same
          exact holds
        · exact inside other w member
  obtain ⟨members, inside, rfl⟩ := given
  exact ⟨.object members, object members inside, rfl⟩

end Untyped

namespace FromJsonText

open Json Json.Scanner Untyped

variable {α σ : Type} {p : α → Prop} {keeps : σ → Prop} {property : Value → Prop}

theorem gives_closedBy {close : Scanner Unit} {inside : Scanner α} (gives : inside.Gives p) :
    (closedBy close inside).Gives p := by
  intro c value c' done
  rcases ran : inside c with ⟨_ | given, reached⟩
  · rw [closedBy, ran] at done
    cases done
  · rw [closedBy, ran] at done
    have closing : Gives ((fun _ => given) <$> close) p :=
      gives_map fun _ _ _ _ => gives c given reached ran
    exact closing reached value c' done

theorem gives_itemsFrom {item : Scanner α} (gives : item.Gives p) (fuel : Nat) (first : Bool) :
    (itemsFrom item fuel first).Gives fun values => ∀ value ∈ values, p value := by
  induction fuel generalizing first with
  | zero => exact gives_pure (List.forall_mem_nil p)
  | succ fuel ih =>
      refine gives_behind fun more => ?_
      split
      · refine gives_bind gives fun value holds => gives_bind (ih false) fun rest others => ?_
        exact gives_pure (List.forall_mem_cons.mpr ⟨holds, others⟩)
      · exact gives_pure (List.forall_mem_nil p)

theorem gives_items {item : Scanner α} (gives : item.Gives p) :
    (items item).Gives fun values => ∀ value ∈ values, p value :=
  gives_behind fun _ => gives_itemsFrom gives _ _

theorem gives_membersFrom {enter : String → σ → Scanner σ}
    (step : ∀ name s, keeps s → (enter name s).Gives keeps) (fuel : Nat) (first : Bool) {s : σ}
    (start : keeps s) : (membersFrom enter fuel first s).Gives keeps := by
  induction fuel generalizing first s with
  | zero => exact gives_pure start
  | succ fuel ih =>
      refine gives_behind fun more => ?_
      split
      · refine gives_behind fun _ => gives_behind fun name => ?_
        exact gives_bind (step name s start) fun after kept => ih false kept
      · exact gives_pure start

theorem gives_members {enter : String → σ → Scanner σ}
    (step : ∀ name s, keeps s → (enter name s).Gives keeps) {s : σ} (start : keeps s) :
    (members enter s).Gives keeps :=
  gives_behind fun _ => gives_membersFrom step _ _ start

theorem gives_nested {inside : Nat → Scanner α} (gives : ∀ depth, (inside depth).Gives p)
    (depth : Nat) : (nested depth inside).Gives p := by
  unfold nested
  split
  · exact gives_behind fun _ => gives _
  · exact gives_faultNext _

/-- A complaint about the type of a value gives none. -/
theorem gives_mistyped (wanted : String) : (mistyped wanted : Scanner α).Gives p := by
  unfold mistyped
  extract_lets wrong wrongNumber
  have complains (found : Found) : (wrong found).Gives p := gives_complain _
  have complainsOfNumber (n : Number) : (wrongNumber n).Gives p := by
    cases n <;> exact gives_complain _
  refine gives_behind fun next => ?_
  split
  · exact gives_behind fun _ => gives_behind fun _ => complains _
  · exact gives_behind fun _ => gives_behind fun _ => complains _
  · exact gives_behind fun _ => gives_behind fun _ => complains _
  · exact gives_behind fun _ => gives_behind complainsOfNumber
  · exact gives_behind fun _ => gives_behind fun _ => complains _
  · exact complains _
  · exact complains _
  · split_ifs
    · exact gives_behind complainsOfNumber
    · exact gives_faultNext _
  · exact gives_faultNext _

theorem gives_numeric {wanted : String} {accept : Number → Except Complaint α}
    (accepted : ∀ n value, n.fits = true → accept n = .ok value → p value) (depth : Nat) :
    (numeric wanted accept depth).Gives p := by
  unfold numeric
  refine gives_placed ?_
  extract_lets test
  have tested (n : Number) (fits : n.fits = true) : (test n).Gives p := by
    dsimp only [test]
    split
    next value ok => exact gives_pure (accepted n value fits ok)
    next => exact gives_complain _
  refine gives_behind fun first => ?_
  split
  · exact gives_behind fun _ => gives_bind gives_numeral tested
  · split_ifs
    · exact gives_bind gives_numeral tested
    · exact gives_mistyped _

theorem gives_optional {read : FromJsonText α} (gives : ∀ depth, (read depth).Gives p)
    (depth : Nat) : (optional read depth).Gives fun value => ∀ a, value = some a → p a := by
  refine gives_behind fun first => ?_
  split
  · exact gives_behind fun _ => gives_behind fun _ => gives_pure nofun
  · refine gives_map (gives_mono (gives depth) fun a holds b same => ?_)
    cases same
    exact holds

theorem gives_list {read : FromJsonText α} (gives : ∀ depth, (read depth).Gives p) (depth : Nat) :
    (list read depth).Gives fun values => ∀ value ∈ values, p value := by
  refine gives_behind fun first => ?_
  split
  · exact gives_placed (gives_nested (fun d => gives_closedBy (gives_items (gives d))) depth)
  · exact gives_placed (gives_mistyped _)

theorem gives_table {read : FromJsonText α} (gives : ∀ depth, (read depth).Gives p)
    (depth : Nat) : (table read depth).Gives (Table.Canonical p) := by
  refine gives_behind fun first => ?_
  split
  · refine gives_placed (gives_nested (fun d => gives_closedBy (gives_members ?_ .nil)) depth)
    intro name t canonical
    exact gives_behind fun _ => gives_bind (gives d) fun value holds =>
      gives_pure (canonical.put holds)
  · exact gives_placed (gives_mistyped _)

section Record

variable {fields : List (Field FromJsonText σ)} {start : σ}
  (all : ∀ field ∈ fields, ∀ depth, (field.read depth).Gives (Preserves keeps))
include all

theorem gives_enterField (depth : Nat) (name : String) {state : List String × σ}
    (kept : keeps state.2) :
    (enterField fields depth name state).Gives fun state => keeps state.2 := by
  unfold enterField
  split
  · exact gives_behind fun _ => gives_behind fun _ => gives_pure kept
  next field found =>
    split_ifs
    · exact gives_complain _
    · have preserved := all field (List.mem_of_find?_eq_some found) depth
      exact gives_behind fun _ => gives_bind preserved fun change preserves =>
        gives_pure (preserves state.2 kept)

theorem gives_recordMembers (kept : keeps start) (depth : Nat) :
    (recordMembers fields start depth).Gives keeps := by
  have step : ∀ name (state : List String × σ), keeps state.2 →
      (enterField fields depth name state).Gives fun state => keeps state.2 :=
    fun name _ => gives_enterField all depth name
  refine gives_bind (gives_members step kept) fun ⟨given, after⟩ kept => ?_
  dsimp only
  split
  · exact gives_complain _
  · exact gives_pure kept

theorem gives_recordItems (wanted : String) (depth position : Nat) (more : Bool)
    (kept : keeps start) :
    (recordItems wanted depth fields position more start).Gives keeps := by
  induction fields generalizing position more start with
  | nil => exact gives_pure kept
  | cons field fields ih =>
      obtain ⟨first, rest⟩ := List.forall_mem_cons.mp all
      refine gives_behind fun goesOn => ?_
      split_ifs
      · exact gives_bind (first depth) fun change preserves =>
          ih rest (position + 1) true (preserves start kept)
      · exact gives_complain _
      · exact ih rest position false kept

theorem gives_record (kept : keeps start) (name : String) (depth : Nat) :
    (record name fields start depth).Gives keeps := by
  refine gives_behind fun first => ?_
  split
  · exact gives_placed (gives_nested (fun d => gives_closedBy
      (gives_recordItems all _ d 0 true kept)) depth)
  · exact gives_placed (gives_nested (fun d => gives_closedBy
      (gives_recordMembers all kept d)) depth)
  · exact gives_placed (gives_mistyped _)

end Record

theorem gives_number {s : Scanner Number} (gives : s.Gives fun n => n.fits = true) :
    Gives ((fun n => match n with
      | .integer i => Untyped.integer i
      | .real x => .real (.finite x)) <$> s) (FromJson (·.fits = true)) := by
  refine gives_map fun c n c' done => ⟨.number n, gives c n c' done, ?_⟩
  cases n <;> rfl

theorem gives_untypedMembers {inside : Scanner Untyped}
    (gives : inside.Gives (FromJson property)) :
    (members (fun name (entries : List (Untyped × Untyped)) => do
      colon
      let value ← inside
      pure ((.text name, value) :: entries)) []).Gives
      fun entries => ∀ entry ∈ entries, FromMember property entry := by
  refine gives_members (fun name entries before => ?_) (List.forall_mem_nil _)
  refine gives_behind fun _ => gives_bind gives fun value holds => gives_pure ?_
  exact List.forall_mem_cons.mpr ⟨⟨name, rfl, holds⟩, before⟩

theorem gives_untypedWith {inner : Option (Scanner Untyped)}
    (inside : ∀ s ∈ inner, s.Gives (FromJson (·.fits = true))) :
    (untypedWith inner).Gives (FromJson (·.fits = true)) := by
  unfold untypedWith
  refine gives_behind fun first => ?_
  split
  · exact gives_behind fun _ => gives_behind fun _ => gives_pure ⟨.null, rfl, rfl⟩
  · exact gives_behind fun _ => gives_behind fun _ => gives_pure ⟨.bool true, rfl, rfl⟩
  · exact gives_behind fun _ => gives_behind fun _ => gives_pure ⟨.bool false, rfl, rfl⟩
  · exact gives_behind fun _ => gives_number gives_numeral
  · exact gives_behind fun _ => gives_map fun _ s _ _ => ⟨.string s, rfl, rfl⟩
  · split
    · refine gives_behind fun _ => gives_map (gives_closedBy ?_)
      intro c values c' done
      exact fromJson_sequence (fun _ fit => itemsFit_iff.mpr fit)
        (gives_items (inside _ rfl) c values c' done)
    · exact gives_faultNext _
  · split
    · refine gives_behind fun _ => ?_
      refine gives_bind (gives_closedBy (gives_untypedMembers (inside _ rfl))) fun entries all => ?_
      -- The members were put in front of each other, so the last one comes first.
      refine gives_pure (fromJson_mapping (fun _ fit => membersFit_iff.mpr fit) ?_)
      exact fun entry member => all entry (List.mem_reverse.mp member)
    · exact gives_faultNext _
  · split_ifs
    · exact gives_number gives_numeral
    · exact gives_faultNext _

theorem gives_untyped : ∀ depth, (untyped depth).Gives (FromJson (·.fits = true))
  | 0 => gives_untypedWith nofun
  | 1 => gives_untypedWith nofun
  | depth + 2 => gives_untypedWith fun s member => by
      cases member
      exact gives_untyped (depth + 1)

theorem gives_decide {choose : Untyped → Except Complaint α}
    (yields : FromUntyped.Yields (FromJson (·.fits = true)) p choose) (depth : Nat) :
    (decide choose depth).Gives p := by
  refine gives_bind (gives_untyped depth) fun u given => ?_
  split
  next value read => exact gives_pure (yields u value given read)
  next => exact gives_complain _

/-- What is read from JSON texts: untyped values come from JSON values that fit. -/
def tracking : Format.Tracking FromJsonText where
  Gives p read := ∀ depth, (read depth).Gives p
  inputs := FromJson (·.fits = true)
  closed := closed_fitting
  any read depth := gives_true (read depth)
  mono gives imp depth := gives_mono (gives depth) imp
  map gives depth := gives_map (gives depth)
  delay gives := gives
  optional := gives_optional
  list := gives_list
  table := gives_table
  record kept all := gives_record all kept _
  decide := gives_decide

theorem gives_json (depth : Nat) :
    Gives ((Format.json : FromJsonText Value) depth) fun v => v.fits = true :=
  gives_decide (FromUntyped.inherited_fits.yields_json closed_fitting) depth

end FromJsonText

namespace Json

/-- What holds of everything that a reading gives holds of what it gives for a
whole text. -/
theorem readText_gives {α : Type} {p : α → Prop} {read : FromJsonText α}
    (gives : ∀ depth, (read depth).Gives p) {s : String} {a : α}
    (done : readText read s = .ok a) : p a := by
  unfold readText at done
  extract_lets whole at done
  have inside : whole.Gives p := by
    refine Scanner.gives_bind (gives _) fun value holds => Scanner.gives_behind fun next => ?_
    split
    · exact Scanner.gives_faultNext _
    · exact Scanner.gives_pure holds
  exact inside _ a _ (Prod.ext done rfl)

/-- The integers in a JSON value that was read from a text fit 64 bits. -/
theorem Value.fits_of_parse {s : String} {v : Value} (parsed : Value.parse s = .ok v) :
    v.fits = true :=
  readText_gives FromJsonText.gives_json parsed

end Json

end ApiReview
