import ApiReview.Review.Session
import ApiReview.Checks.Names
import ApiReview.Text.Word

/-!
# Names of component schemas

The names become type names of generated clients.  They should be identifiers
and no keywords, and their normalized forms have to differ ignoring case.
-/

namespace ApiReview

/-- A character at which names are cut: no word character, or an underscore. -/
def isSeparator (c : Char) : Bool :=
  !Text.isWordChar c || c == '_'

/-- A piece of a name with its first character in upper case. -/
def capitalize : List Char → List Char
  | [] => []
  | c :: rest => Text.upperChar c ++ rest

/-- The normalized form of a name: the pieces between the separators, each with
its first character in upper case. -/
def normalizeName (name : String) : String :=
  String.ofList ((Text.cutList isSeparator name.toList).flatMap capitalize)

/-- Keywords of the languages for which clients are generated, in lower case. -/
def reservedWords : List String :=
  ["abstract", "and", "as", "assert", "async", "await", "base", "bool", "boolean",
    "break", "byte", "case", "catch", "chan", "char", "checked", "class", "const",
    "continue", "decimal", "def", "default", "defer", "del", "delegate", "do",
    "double", "elif", "else", "enum", "event", "except", "explicit", "export",
    "extends", "extern", "fallthrough", "false", "final", "finally", "fixed", "float",
    "for", "foreach", "from", "func", "function", "global", "go", "goto", "if",
    "implements", "implicit", "import", "in", "instanceof", "int", "interface",
    "internal", "is", "lambda", "let", "lock", "long", "map", "namespace", "new",
    "nil", "none", "nonlocal", "not", "null", "object", "operator", "or", "out",
    "override", "package", "params", "pass", "private", "protected", "public", "raise",
    "range", "readonly", "ref", "return", "sbyte", "sealed", "select", "short",
    "sizeof", "static", "string", "struct", "super", "switch", "this", "throw",
    "throws", "true", "try", "type", "typeof", "uint", "ulong", "unchecked", "unsafe",
    "ushort", "using", "var", "virtual", "void", "volatile", "while", "with", "yield"]

/-- Is the name a keyword, ignoring case, or one of the extra words, ignoring the
case of ASCII letters? -/
def isReserved (extra : List String) (name : String) : Bool :=
  reservedWords.contains (Text.lower name) || extra.any (Text.eqIgnoringAsciiCase · name)

namespace Checks

/-- The findings about one name; `owner` is the name that claimed its normalized
form, if any did. -/
def nameFindings (policy : Policy) (name : String) (owner : Option String) :
    List Finding :=
  let pointer := Pointer.schema name
  let found :=
    (if isIdentifier name then [] else
      [Finding.of .invalidSchemaName
        ("Schema name '" ++ name ++ "' is not a valid identifier " ++
          "(letters, digits, underscore; no leading digit)") pointer]) ++
    (if isReserved policy.extraReservedWords name then
      [.of .reservedKeywordName
        ("Schema name '" ++ name ++ "' is a reserved word in generated code") pointer]
      else []) ++
    owner.toList.map fun first =>
      .of .normalizedNameCollision
        ("Schema name '" ++ name ++ "' normalizes to '" ++ normalizeName name ++
          "', already used by '" ++ first ++ "'") pointer
  found.map (·.about name pointer "schema")

/-- The findings about a list of names; `claimed` holds the first name of each
normalized form in lower case. -/
def namesFindings (policy : Policy) : List String → Table String → List Finding
  | [], _ => []
  | name :: rest, claimed =>
    let normalized := normalizeName name
    let key := Text.lower normalized
    if normalized == "" then
      nameFindings policy name none ++ namesFindings policy rest claimed
    else
      match claimed.get? key with
      | some first =>
        nameFindings policy name (some first) ++ namesFindings policy rest claimed
      | none =>
        nameFindings policy name none ++ namesFindings policy rest (claimed.put key name)

def naming : Check where
  name := "naming"
  run d s := s.pushAll (namesFindings s.policy d.schemas.names [])

end Checks

end ApiReview
