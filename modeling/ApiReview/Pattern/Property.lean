import ApiReview.Pattern.PropertyTable
import ApiReview.Pattern.Tree

/-!
# Classes named by a property

The name of a property is compared without case, blanks, hyphens, underscores
and an opening `is`.  A single name is a property that a character has or has
not, a category, or a script, in this order; two abbreviations and the cased
letters are categories although properties are abbreviated the same.
-/

namespace ApiReview.Pattern

namespace PropertyName

/-- The name as the tables hold it. -/
def normalize (name : String) : String :=
  let chars := name.toList
  let opening := chars.take 2
  let hasIs := opening.map Char.toLower == ['i', 's']
  let kept := (if hasIs then chars.drop 2 else chars).filter fun c =>
    c.toNat < 128 && c != ' ' && c != '_' && c != '-'
  let text := String.ofList (kept.map Char.toLower)
  if hasIs && text == "c" then "isc" else text

def find? (classes : List PropertyClass) (name : String) : Option PropertyClass :=
  classes.find? (·.names.contains name)

/-- The class, of which there is none for some names, or the fault that the value
is unknown. -/
def valueIn (classes : List PropertyClass) (value : String) : Except Fault PropertyClass :=
  match find? classes value with
  | some c => .ok c
  | none => .error .propertyValueUnknown

def classOfSingle (name : String) : Except Fault PropertyClass :=
  let binary :=
    if ["cf", "sc", "lc"].contains name then none else find? binaryProperties name
  match binary, find? categories name, find? scripts name with
  | some c, _, _ => .ok c
  | none, some c, _ => .ok c
  | none, none, some c => .ok c
  | none, none, none =>
    if emptyCategories.contains name || emptyScripts.contains name then
      .error .propertyValueUnknown
    else
      .error .propertyUnknown

/-- The size of a class for which there is no table of its own. -/
def otherSize : Nat :=
  5000

/-- The class of the characters for which a property has one of some values. -/
def oneOf (values : List String) (value : String) : Except Fault PropertyClass :=
  if values.contains value then .ok ⟨[value], otherSize⟩
  else .error .propertyValueUnknown

/-- The class of the characters for which a property has a value. -/
def classOfValue (name value : String) : Except Fault PropertyClass :=
  if ["gc", "generalcategory"].contains name then valueIn categories value
  else if ["sc", "script", "scx", "scriptextensions"].contains name then
    valueIn scripts value
  else if name == "age" then oneOf ages value
  else if ["gcb", "graphemeclusterbreak"].contains name then oneOf graphemeBreaks value
  else if ["sb", "sentencebreak"].contains name then oneOf sentenceBreaks value
  else if ["wb", "wordbreak"].contains name then oneOf wordBreaks value
  else if valuedProperties.contains name || (find? binaryProperties name).isSome then
    .error .propertyValueUnknown
  else
    .error .propertyUnknown

def toClass : PropertyName → Except Fault PropertyClass
  | .single name => classOfSingle (normalize name)
  | .valued name value => classOfValue (normalize name) (normalize value)

end PropertyName

end ApiReview.Pattern
