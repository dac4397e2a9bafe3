import ApiReview.Proofs.Document.Reading
import ApiReview.Proofs.Reading.ReadsBack

/-!
# Schemas are read back

A printed schema leaves out what is absent or empty, and reading it gives the
schema itself: what is left out is absent or empty again, and what is printed is
never null and fits no other shape than its own.  Every schema that was read from
a JSON value is read back in this way, by induction on the bound for its depth.
-/

namespace ApiReview

open ApiReview.Field (Reads)
open ApiReview.FromUntyped (Yields tracking)
open Json (Value presentField filledField)
open Untyped (FromJson closed_fitting)

variable {depth : Nat}

/-- What readers leave in a node, given what they leave in the schemas directly
below it. -/
structure Schema.Canonical (inner : Schema → Prop) (s : Schema) : Prop where
  enumValues : ∀ values, s.enumValues = some values → ∀ v ∈ values, v.Distinct
  discriminator : ∀ d, s.discriminator = some d → d.mapping.Distinct
  minimum : ∀ x, s.minimum = some x → ∃ y, x = .finite y
  maximum : ∀ x, s.maximum = some x → ∃ y, x = .finite y
  properties : Table.Canonical inner s.properties
  items : ∀ child, s.items = some child → inner child
  allOf : ∀ child ∈ s.allOf, inner child
  oneOf : ∀ child ∈ s.oneOf, inner child
  anyOf : ∀ child ∈ s.anyOf, inner child
  additional : ∀ child, s.additional = some (.valued child) → inner child

section Printed

/-- The printed rule for additional properties. -/
def Additional.toJson : Additional Schema → Value
  | .allowed flag => .bool flag
  | .valued s => s.toJson

variable {α β : Type}

theorem schemaMembers_eq (properties : Table Schema) :
    schemaMembers properties = properties.map fun (name, s) => (name, s.toJson) := by
  induction properties with
  | nil => rfl
  | cons entry rest ih => rw [schemaMembers, ih, List.map_cons]

theorem schemaItems_eq (schemas : List Schema) :
    schemaItems schemas = schemas.map Schema.toJson := by
  induction schemas with
  | nil => rfl
  | cons s rest ih => rw [schemaItems, ih, List.map_cons]

theorem optionalSchema_eq (s : Option Schema) : optionalSchema s = s.map Schema.toJson := by
  cases s <;> rfl

theorem optionalAdditional_eq (additional : Option (Additional Schema)) :
    optionalAdditional additional = additional.map Additional.toJson := by
  cases additional with
  | none => rfl
  | some additional => cases additional <;> rfl

theorem presentField_map (name : String) (print : β → Value) (f : α → β) (value : Option α) :
    presentField name print (value.map f) = presentField name (fun a => print (f a)) value := by
  cases value <;> rfl

theorem filledField_map (name : String) (print : List β → Value) (f : α → β) (items : List α) :
    filledField name print (items.map f) =
      filledField name (fun items => print (items.map f)) items := by
  cases items <;> rfl

theorem Schema.exists_toJson_eq (s : Schema) : ∃ members, s.toJson = .object members := by
  cases s
  rw [Schema.toJson]
  exact ⟨_, rfl⟩

end Printed

section Parts

theorem readsBack_typeNames (types : TypeNames) :
    ReadsBackGiven (fun _ => readTypeNames) TypeNames.toJson types := by
  cases types with
  | single name => exact ⟨fun _ _ => rfl, nofun⟩
  | several names =>
      refine ⟨fun depth deep => ?_, nofun⟩
      refine (Untyped.firstShape_of_error ⟨_, rfl⟩).trans (Untyped.firstShape_of_ok ?_)
      exact congrArg (Except.map TypeNames.several) (readsBack_texts names depth deep)

theorem readsBack_values {values : List Value} (distinct : ∀ v ∈ values, v.Distinct) :
    ReadsBackGiven (fun _ => FromUntyped.list FromUntyped.json) Value.array values := by
  have back := ReadsBack.list fun v member => readsBack_json (distinct v member)
  have printed : Value.ofList id values = .array values := by rw [Value.ofList, List.map_id]
  refine ⟨fun depth deep => ?_, by simp⟩
  rw [← printed] at deep ⊢
  exact back depth deep

theorem ofText?_eq (s : Option String) : Value.ofText? s = Value.ofOption Value.string s := by
  cases s <;> rfl

theorem readsBack_discriminator {d : Discriminator} (distinct : d.mapping.Distinct) :
    ReadsBackGiven (fun _ => readDiscriminator) Discriminator.toJson d := by
  refine ⟨fun depth deep => ?_, nofun⟩
  rw [Discriminator.toJson, ofText?_eq] at deep ⊢
  refine Reads.record ?_ "Discriminator" (by decide) (Nat.le_of_lt deep)
  refine .optional (fun s _ => readsBack_text s) ?_
  refine .field (.table ⟨distinct, fun _ s _ => (readsBack_text s).back⟩) ?_
  exact .nil

theorem readsBack_additional {additional : Additional Schema}
    (back : ∀ s, additional = .valued s → ReadsBackGiven schemaFromUntyped Schema.toJson s) :
    ReadsBackGiven (fun depth => readAdditional (schemaFromUntyped depth)) Additional.toJson
      additional := by
  cases additional with
  | allowed flag => exact ⟨fun _ _ => rfl, nofun⟩
  | valued s =>
      obtain ⟨members, printed⟩ := s.exists_toJson_eq
      obtain ⟨back, present⟩ := back s rfl
      refine ⟨fun depth deep => ?_, present⟩
      refine (Untyped.firstShape_of_error ?_).trans (Untyped.firstShape_of_ok ?_)
      · rw [Additional.toJson, printed]
        exact ⟨_, rfl⟩
      · exact congrArg (Except.map Additional.valued) (back depth deep)

end Parts

/-- Along its printed fields, a schema is built up from an empty one. -/
theorem Schema.reads {s : Schema}
    (canonical : s.Canonical (ReadsBackGiven schemaFromUntyped Schema.toJson)) (depth : Nat) :
    ∃ members, s.toJson = .object members ∧
      Reads depth (schemaFields (schemaFromUntyped depth) (schemaFromUntyped depth)) members {} s := by
  obtain ⟨keywords, properties, items, allOf, oneOf, anyOf, additional⟩ := s
  rw [Schema.toJson]
  refine ⟨_, rfl, ?_⟩
  rw [← List.append_nil (_ ++ presentField "nullable" _ _)]
  unfold schemaFields
  simp only [List.append_assoc, schemaMembers_eq, schemaItems_eq, optionalSchema_eq,
    optionalAdditional_eq, presentField_map, filledField_map]
  refine .present (fun s _ => readsBack_text s) ?_
  refine .present (fun types _ => readsBack_typeNames types) ?_
  refine .present (fun s _ => readsBack_text s) ?_
  refine .present (fun s _ => readsBack_text s) ?_
  refine .present (fun s _ => readsBack_text s) ?_
  refine .filled (.table ⟨canonical.properties.names, fun name child member =>
    (canonical.properties.values name child member).back⟩) ?_
  refine .present canonical.items ?_
  refine .filled (.list fun child member => (canonical.allOf child member).back) ?_
  refine .filled (.list fun child member => (canonical.oneOf child member).back) ?_
  refine .filled (.list fun child member => (canonical.anyOf child member).back) ?_
  refine .present (fun values given => readsBack_values (canonical.enumValues values given)) ?_
  refine .present (fun d given => readsBack_discriminator (canonical.discriminator d given)) ?_
  refine .filled (readsBack_texts _) ?_
  refine .present (fun x given => readsBack_number (canonical.minimum x given)) ?_
  refine .present (fun x given => readsBack_number (canonical.maximum x given)) ?_
  refine .present (fun n _ => readsBack_count n) ?_
  refine .present (fun n _ => readsBack_count n) ?_
  refine .present (fun n _ => readsBack_count n) ?_
  refine .present (fun n _ => readsBack_count n) ?_
  refine .present (fun n _ => readsBack_count n) ?_
  refine .present (fun n _ => readsBack_count n) ?_
  refine .present (fun s _ => readsBack_text s) ?_
  refine .present (fun rule given => readsBack_additional fun child valued => ?_) ?_
  · exact canonical.additional child (given.trans (congrArg some valued))
  refine .present (fun b _ => readsBack_flag b) ?_
  exact .nil

/-- A canonical schema over schemas that are read back is read back. -/
theorem readsBack_schema {s : Schema}
    (canonical : s.Canonical (ReadsBackGiven schemaFromUntyped Schema.toJson)) :
    ReadsBackGiven schemaFromUntyped Schema.toJson s := by
  constructor
  · intro depth deep
    cases depth with
    | zero => exact absurd deep (Nat.not_lt_zero _)
    | succ depth =>
        obtain ⟨members, printed, reads⟩ := Schema.reads canonical depth
        rw [printed] at deep ⊢
        refine reads.record "Schema" ?_ (Nat.lt_succ_iff.mp deep)
        simp [schemaFields, Field.optional, Field.defaulted]
  · obtain ⟨members, printed⟩ := s.exists_toJson_eq
    rw [printed]
    nofun

section Tracked

variable {inputs : Untyped → Prop} {inner : Schema → Prop}

/-- Bounds are finite, since no integer of the input is too large. -/
theorem yields_number :
    Yields (FromJson fun v => v.fits = true) (fun x => ∃ y, x = .finite y)
      FromUntyped.number := by
  rintro _ x ⟨v, fits, rfl⟩ ok
  cases v with
  | number n =>
      cases n with
      | integer n =>
          obtain ⟨y, rounded⟩ := Binary64.exists_ofInt_eq_finite fits
          cases ok
          exact ⟨y, rounded⟩
      | real y =>
          cases ok
          exact ⟨y, rfl⟩
  | _ => cases ok

theorem yields_additional (schemas : Yields inputs inner (schemaFromUntyped depth)) :
    Yields inputs (fun additional => ∀ s, additional = .valued s → inner s)
      (readAdditional (schemaFromUntyped depth)) := by
  refine yields_firstShape (List.forall_mem_cons.mpr ⟨?_, List.forall_mem_singleton.mpr ?_⟩)
  · intro v additional input ok s given
    obtain ⟨flag, -, same⟩ := Except.map_eq_ok ok
    cases same.trans given
  · intro v additional input ok s given
    obtain ⟨child, childOk, same⟩ := Except.map_eq_ok ok
    cases same.trans given
    exact schemas v s input childOk

namespace Format.Tracking

variable {R : Type → Type} [Format R] (k : Tracking R)

theorem gives_readDiscriminator : k.Gives (fun d => d.mapping.Distinct) readDiscriminator := by
  refine k.record List.nodup_nil ?_
  simp only [List.forall_mem_cons, List.not_mem_nil, false_imp_iff, implies_true, and_true]
  constructor
  · exact k.keeps_any fun _ _ start => start
  · exact k.keeps_defaulted (k.table (k.any _)) fun _ _ given _ => given.names

variable (numbers : k.Gives (fun x => ∃ y, x = .finite y) Format.number)
  (values : k.Gives Value.Distinct Format.json)
include numbers values

/-- A schema is canonical over the schemas directly below it. -/
theorem gives_readSchema_succ (inside : Yields k.inputs inner (schemaFromUntyped depth))
    (schemas : k.Gives inner (readSchema depth)) :
    k.Gives (Schema.Canonical inner) (readSchema (depth + 1)) := by
  have schemas : k.Gives inner (Format.delay fun _ => readSchema depth) := k.delay schemas
  refine k.record ?_ ?_
  · exact ⟨by simp, by simp, by simp, by simp, .nil, by simp, by simp, by simp, by simp, by simp⟩
  unfold schemaFields
  simp only [List.forall_mem_cons, List.not_mem_nil, false_imp_iff, implies_true, and_true]
  refine ⟨?_, ?_, ?_, ?_, ?_, ?properties, ?items, ?allOf, ?oneOf, ?anyOf, ?enum, ?discriminator,
    ?_, ?minimum, ?maximum, ?_, ?_, ?_, ?_, ?_, ?_, ?_, ?additional, ?_⟩
  case properties =>
    exact k.keeps_defaulted (k.table schemas) fun _ _ given start =>
      { start with properties := given }
  case items =>
    exact k.keeps_optional schemas fun _ _ given start => { start with items := given }
  case allOf =>
    exact k.keeps_defaulted (k.list schemas) fun _ _ given start => { start with allOf := given }
  case oneOf =>
    exact k.keeps_defaulted (k.list schemas) fun _ _ given start => { start with oneOf := given }
  case anyOf =>
    exact k.keeps_defaulted (k.list schemas) fun _ _ given start => { start with anyOf := given }
  case enum =>
    exact k.keeps_optional (k.list values) fun _ _ given start => { start with enumValues := given }
  case discriminator =>
    exact k.keeps_optional k.gives_readDiscriminator fun _ _ given start =>
      { start with discriminator := given }
  case minimum =>
    exact k.keeps_optional numbers fun _ _ given start => { start with minimum := given }
  case maximum =>
    exact k.keeps_optional numbers fun _ _ given start => { start with maximum := given }
  case additional =>
    refine k.keeps_optional (k.decide (yields_additional inside)) fun value _ given start =>
      { start with additional := fun child valued => ?_ }
    exact given (.valued child) valued child rfl
  all_goals exact k.keeps_any fun _ _ start => { start with }

/-- Schemas are read back when those are that come from untyped values. -/
theorem gives_readSchema (inside : ∀ depth, Yields k.inputs
      (ReadsBackGiven schemaFromUntyped Schema.toJson) (schemaFromUntyped depth)) :
    ∀ depth, k.Gives (ReadsBackGiven schemaFromUntyped Schema.toJson) (readSchema depth)
  | 0 => k.decide fun _ _ _ ok => nomatch ok
  | depth + 1 => by
      have schemas := gives_readSchema inside depth
      exact k.mono (k.gives_readSchema_succ numbers values (inside depth) schemas)
        fun _ => readsBack_schema

end Format.Tracking

/-- Every schema that was read from a JSON value is read back. -/
theorem yields_schemaFromUntyped :
    Yields (FromJson fun v => v.fits = true) (ReadsBackGiven schemaFromUntyped Schema.toJson)
      (schemaFromUntyped depth) := by
  have values : Yields (FromJson fun v => v.fits = true) Value.Distinct FromUntyped.json :=
    fun v w _ ok => FromUntyped.distinct_of_json v w ok
  induction depth with
  | zero =>
      intro v s input ok
      cases ok
  | succ depth ih =>
      have canonical := (tracking closed_fitting).gives_readSchema_succ yields_number values ih
        (readSchema_eq ▸ ih)
      rw [readSchema_eq] at canonical
      exact canonical.mono fun _ => readsBack_schema

end Tracked

end ApiReview
