import ApiReview.Checks.Enums
import ApiReview.Document.Model
import ApiReview.Pattern.Verdict
import ApiReview.Review.Walk

/-!
# Single schema nodes

The rules for one node of a schema that is not a reference, and the rule for one
that is.  What a node refers to is looked up in the document; the rules look no
further than one reference.
-/

namespace ApiReview.Checks

/-- The finding about a reference to a component schema that is not declared. -/
def referenceFindings (d : Document) (v : Visit) : List Finding :=
  match v.schema.componentTarget? with
  | none => []
  | some target =>
    if (d.schema? target).isSome then [] else
      [.of .unresolvedReference ("Reference to undeclared schema '" ++ target ++ "'") v.path]

/-- The node itself, or the component schema that it refers to; none for any
other reference. -/
def lookedUp? (d : Document) (s : Schema) : Option Schema :=
  if s.isReference then s.componentTarget?.bind d.schema? else some s

/-- The names that one member of an `allOf` requires.  A reference out of the
component schemas stands for itself. -/
def requiredByMember (d : Document) (member : Schema) : List String :=
  match member.componentTarget? with
  | some target => ((d.schema? target).map (·.required)).getD []
  | none => member.required

/-- The names that a node requires, by itself or by a member of its `allOf`. -/
def requiredNames (d : Document) (s : Schema) : List String :=
  s.required ++ s.allOf.flatMap (requiredByMember d)

/-- Does the target of a discriminator mapping exist?  It is given by a
reference, or by the bare name of a component schema. -/
def mappingTargetExists (d : Document) (target : String) : Bool :=
  match Text.dropOpening? Pointer.schemaRoot target with
  | some name => (d.schema? name).isSome
  | none =>
    !target.toList.contains '/' && !target.toList.contains '#' && (d.schema? target).isSome

def declaredDiscriminatorFindings (d : Document) (s : Schema) (path : String)
    (discriminator : Discriminator) : List Finding :=
  let location := path ++ ".discriminator"
  (match discriminator.propertyName.filter fun p => !Text.isBlank p with
    | none =>
      [.of .missingDiscriminatorProperty "Discriminator has no propertyName" location]
    | some property =>
      if (requiredNames d s).contains property then [] else
        [.of .discriminatorPropertyNotRequired
          ("Discriminator property '" ++ property ++ "' is not listed in required")
          location]) ++
  (if discriminator.mapping.isEmpty then
    [.of .missingDiscriminatorMapping "Discriminator declares no mapping" location]
    else []) ++
  (discriminator.mapping.filter fun (_, target) => !mappingTargetExists d target).map
    fun (value, target) =>
      .of .invalidDiscriminatorMapping
        ("Mapping '" ++ value ++ "' points at '" ++ target ++
          "', which is not a declared schema")
        (location ++ ".mapping." ++ value)

/-- The findings about the discriminator of a node, or about its absence. -/
def discriminatorFindings (d : Document) (s : Schema) (path : String) : List Finding :=
  match s.discriminator with
  | some discriminator => declaredDiscriminatorFindings d s path discriminator
  | none =>
    if s.oneOf.any fun member => member.isReference || member.isObjectLike then
      [.of .missingDiscriminator
        ("oneOf with " ++ toString s.oneOf.length ++
          " alternatives has no discriminator; clients cannot pick the subtype") path]
    else
      []

/-- The findings about the members of an `allOf`. -/
def allOfFindings (d : Document) (s : Schema) (path : String) : List Finding :=
  s.allOf.zipIdx.flatMap fun (member, index) =>
    let location := path ++ (Slot.allOf index).text
    let told (what : String) : List Finding :=
      [.of .invalidAllOfFragment ("allOf member " ++ toString index ++ " is " ++ what)
        location]
    match lookedUp? d member with
    | none => []
    | some found =>
      if found.isEmpty then told "empty"
      else if found.type.isSome && !found.isType "object" then told "not an object schema"
      else []

/-- The finding about a lower bound above the upper one. -/
def rangeFindings (path lower upper : String) (low high : Option Binary64)
    (inverted : Bool) : List Finding :=
  if inverted then
    [.of .invalidRange
      (lower ++ " (" ++ (low.map (·.plain)).getD "" ++ ") is greater than " ++ upper ++
        " (" ++ (high.map (·.plain)).getD "" ++ ")") path]
  else
    []

/-- The finding about two bounds of a number. -/
def boundFindings (path lower upper : String) (low high : Option Binary64) :
    List Finding :=
  rangeFindings path lower upper low high <|
    match low, high with
    | some l, some h => h.lt l
    | _, _ => false

/-- The finding about two bounds of a count; the message shows them as binary64
numbers. -/
def countFindings (path lower upper : String) (low high : Option Nat) : List Finding :=
  rangeFindings path lower upper (low.map .ofNat) (high.map .ofNat) <|
    match low, high with
    | some l, some h => h < l
    | _, _ => false

def boundsFindings (s : Schema) (path : String) : List Finding :=
  boundFindings path "minimum" "maximum" s.minimum s.maximum ++
  countFindings path "minLength" "maxLength" s.minLength s.maxLength ++
  countFindings path "minItems" "maxItems" s.minItems s.maxItems ++
  countFindings path "minProperties" "maxProperties" s.minProperties s.maxProperties

/-- The finding about a pattern that does not compile. -/
def patternFindings (s : Schema) (path : String) : List Finding :=
  match s.pattern with
  | none => []
  | some pattern =>
    match Pattern.fault? pattern with
    | none => []
    | some reason =>
      [.of .invalidPattern ("Pattern '" ++ pattern ++ "' does not compile: " ++ reason) path]

/-- An object, or a node without a type, that takes any property and names
none. -/
def isWeaklyTyped (s : Schema) : Bool :=
  (s.type.isNone || s.isType "object") && s.properties.isEmpty && !s.hasComposition &&
    s.additional.any Additional.isFreeForm

/-- The finding about a property that says nothing about its values. -/
def emptyPropertyFindings (v : Visit) : List Finding :=
  match v.slot with
  | .property name =>
    if v.schema.isEmpty then
      [.of .emptyPropertySchema ("Property '" ++ name ++ "' has an empty schema") v.path]
    else
      []
  | _ => []

/-- The findings about one node that is not a reference. -/
def nodeFindings (d : Document) (v : Visit) : List Finding :=
  let s := v.schema
  emptyPropertyFindings v ++
  (if s.isType "array" && s.items.all Schema.isEmpty then
    [.of .emptyArrayItems "Array schema does not describe its items" v.path] else []) ++
  discriminatorFindings d s v.path ++
  allOfFindings d s v.path ++
  boundsFindings s v.path ++
  patternFindings s v.path ++
  (if isWeaklyTyped s then
    [.of .weakTyping "Object schema has no properties and accepts any additional property"
      v.path] else []) ++
  (if s.enumValues.any (·.any (· == .string "")) then
    [.of .emptyEnumValue "Enum contains an empty string value" v.path] else []) ++
  enumFindings s v.path

end ApiReview.Checks
