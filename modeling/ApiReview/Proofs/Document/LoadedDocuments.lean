import ApiReview.Document.Source
import ApiReview.Proofs.Document.InlinePointers
import ApiReview.Proofs.Document.RoundTrip
import ApiReview.Proofs.Reading.JsonTexts
import ApiReview.Proofs.Reading.YamlTexts

/-!
# Loaded documents

A document comes from a JSON text, from a YAML text or from a JSON value.  In each case
the names in its tables are distinct, so its pointers lead to what they are pointers of.

What comes from a JSON text is also given back by reading what it is printed as.  What
comes from a YAML text need not be: a bound there may be infinite, and is printed as null.
-/

namespace ApiReview

open Json (Value)
open Untyped (closed_fitting)

section JsonTexts

open Json.Scanner (Gives)

theorem FromJsonText.gives_finite (depth : Nat) :
    Gives ((Format.number : FromJsonText Binary64) depth) fun x => ∃ y, x = .finite y := by
  refine gives_numeric (fun n x fits accepted => ?_) depth
  refine yields_number (Untyped.ofJson (.number n)) x ⟨.number n, fits, rfl⟩ ?_
  cases n <;> exact accepted

theorem FromJsonText.gives_distinct (depth : Nat) :
    Gives ((Format.json : FromJsonText Value) depth) Value.Distinct :=
  gives_decide (fun u v _ ok => FromUntyped.distinct_of_json u v ok) depth

/-- The documents that JSON texts hold are canonical, as those of JSON values are. -/
theorem FromJsonText.gives_readDocument (levels depth : Nat) :
    Gives ((readDocument levels : FromJsonText Document) depth)
      (Document.Canonical SchemaReadsBack SecurityScheme.Canonical) :=
  have schemas := tracking.gives_readSchema gives_finite gives_distinct fun _ =>
    yields_schemaFromUntyped
  tracking.gives_readDocument yields_schemaFromUntyped (schemas levels)
    (yields_readSecurityScheme closed_fitting) depth

end JsonTexts

namespace Document

variable {text : String} {v : Value} {d : Document}

/-- The ways in which a document is loaded. -/
inductive Loaded (d : Document) : Prop where
  | text {text : String} (parsed : Document.parse text = .ok d)
  | value {v : Value} (read : Document.ofJson v = .ok d)

theorem distinct_parse (parsed : Document.parse text = .ok d) : d.Distinct := by
  unfold Document.parse at parsed
  split at parsed
  · exact Json.readText_gives FromJsonText.tracking.gives_distinct
      (Except.mapError_eq_ok_iff.mp parsed)
  · exact Yaml.readText_gives FromYaml.tracking.gives_distinct
      (Except.mapError_eq_ok_iff.mp parsed)

theorem distinct_ofJson (read : Document.ofJson v = .ok d) : d.Distinct :=
  (FromUntyped.tracking Untyped.closed_json).gives_distinct _ d ⟨v, trivial, rfl⟩ read

/-- The names in the tables of a loaded document are distinct. -/
theorem Loaded.distinct (loaded : d.Loaded) : d.Distinct := by
  cases loaded with
  | text parsed => exact distinct_parse parsed
  | value read => exact distinct_ofJson read

/-- In a loaded document different schemas that are given in place have different pointers, and
their pointers and those of the operations lead to what is printed for them. -/
theorem Loaded.pointers_resolve (loaded : d.Loaded) :
    (d.inlineSchemas.map Prod.fst).Nodup ∧
      (∀ pointer s, (pointer, s) ∈ d.inlineSchemas →
        d.toJson.resolve? pointer = some s.toJson) ∧
      ∀ site ∈ d.operations, d.toJson.resolve? site.pointer = some site.operation.toJson := by
  refine ⟨(d.pointsTo_inlineSchemas loaded.distinct).nodup, ?_, ?_⟩
  · exact fun pointer s => resolve?_inlineSchemas loaded.distinct
  · exact fun site => resolve?_operation loaded.distinct

/-- The ways in which a document is loaded from a JSON text: as it stands there, or from
the value that the text holds. -/
inductive OfJsonText (d : Document) : Prop where
  | text {text : String} (json : isJsonText text = true) (parsed : Document.parse text = .ok d)
  | value {text : String} {v : Value} (parsed : Value.parse text = .ok v)
      (read : Document.ofJson v = .ok d)

theorem OfJsonText.canonical (loaded : d.OfJsonText) :
    d.Canonical SchemaReadsBack SecurityScheme.Canonical := by
  cases loaded with
  | text json parsed =>
      rw [Document.parse, if_pos json, Except.mapError_eq_ok_iff] at parsed
      exact Json.readText_gives (FromJsonText.gives_readDocument _) parsed
  | value parsed read => exact canonical_ofJson (Value.fits_of_parse parsed) read

/-- A document from a JSON text is given back by reading what it is printed as, and is the only
one from a JSON text that is printed so. -/
theorem OfJsonText.readsBack (loaded : d.OfJsonText) :
    Document.ofJson d.toJson = .ok d ∧
      ∀ e : Document, e.OfJsonText → e.toJson = d.toJson → e = d := by
  refine ⟨loaded.canonical.ofJson_printed, fun e other same => ?_⟩
  exact loaded.canonical.eq_of_toJson other.canonical same

/-- The lower bounds of the component schemas. -/
def lowerBounds (d : Document) : List (Option Binary64) :=
  d.allComponents.schemas.map fun entry => entry.2.minimum

/-- A YAML text can give an infinite bound, which is lost. -/
theorem infinite_bound_lost : ∃ d : Document, d.Loaded ∧ Document.ofJson d.toJson ≠ .ok d := by
  have run : (Document.parse "components:\n  schemas:\n    A:\n      minimum: .inf\n").toOption.map
      (fun d => (d.lowerBounds, (Document.ofJson d.toJson).toOption.map lowerBounds)) =
      some ([some (.infinite false)], some [none]) := by decide +kernel
  obtain ⟨d, parsed, bounds⟩ := Option.map_eq_some_iff.mp run
  obtain ⟨infinite, lost⟩ := Prod.mk.inj bounds
  refine ⟨d, .text (Except.eq_ok_of_toOption parsed), fun back => ?_⟩
  rw [back] at lost
  have absent : d.lowerBounds = [none] := Option.some.inj lost
  rw [infinite] at absent
  cases absent

end Document

end ApiReview
