import ApiReview.Text.Blank
import ApiReview.Text.Ascii
import ApiReview.Text.Cut

/-!
# Names inside of a document

Identifiers, placeholders of path templates, media types and status codes are
plain texts in a document; the rules for them are stated here.
-/

namespace ApiReview

/-- An ASCII letter or the underscore. -/
def startsIdentifier (c : Char) : Bool :=
  c.isAlpha || c == '_'

/-- An ASCII letter, an ASCII digit or the underscore. -/
def continuesIdentifier (c : Char) : Bool :=
  c.isAlphanum || c == '_'

/-- Letters, digits and underscores, and no digit at the start. -/
def isIdentifier (name : String) : Bool :=
  match name.toList with
  | [] => false
  | first :: rest => startsIdentifier first && rest.all continuesIdentifier

/-- A character that can stand inside of a placeholder. -/
def inPlaceholder (c : Char) : Bool :=
  c != '\x7b' && c != '\x7d' && c != '/'

/-- The placeholders of a template.  `current` holds the characters since the
last opening brace, in reverse, as long as they can belong to a placeholder. -/
def placeholdersFrom (current : Option (List Char)) : List Char → List String
  | [] => []
  | c :: rest =>
    if c == '\x7b' then
      placeholdersFrom (some []) rest
    else if c == '\x7d' then
      match current with
      | some (last :: before) =>
        String.ofList (last :: before).reverse :: placeholdersFrom none rest
      | _ => placeholdersFrom none rest
    else if c == '/' then
      placeholdersFrom none rest
    else
      placeholdersFrom (current.map (c :: ·)) rest

/-- The names that stand between braces in a path template, in their order and
with repetitions. -/
def placeholders (template : String) : List String :=
  placeholdersFrom none template.toList

/-- Does content of this media type consist of JSON? -/
def isJsonMediaType (mediaType : String) : Bool :=
  let essence := Text.trim ((Text.cutAt ';' mediaType).headD mediaType)
  Text.eqIgnoringAsciiCase essence "application/json" ||
    "+json".toList.isSuffixOf (Text.asciiLower essence).toList

/-- A status code of success: `2` and two digits, or `2XX`. -/
def isSuccessStatus (status : String) : Bool :=
  match status.toList with
  | ['2', a, b] => (a.isDigit && b.isDigit) || (a.toLower == 'x' && b.toLower == 'x')
  | _ => false

end ApiReview
