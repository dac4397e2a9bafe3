import ApiReview.Text.Cut

/-!
# JSON pointers

Findings point into the document with JSON pointers.  A key becomes one segment
of a pointer by writing `~0` for `~` and `~1` for `/`, so that no segment holds
a slash of its own.
-/

namespace ApiReview.Pointer

/-- How a character of a key is written inside of a segment. -/
def escapeChar (c : Char) : List Char :=
  if c == '~' then ['~', '0']
  else if c == '/' then ['~', '1']
  else [c]

def escape (key : String) : String :=
  String.ofList (key.toList.flatMap escapeChar)

/-- The characters of the key that a segment stands for.  A tilde that opens no
escape stands for itself. -/
def unescapeList : List Char → List Char
  | '~' :: '0' :: rest => '~' :: unescapeList rest
  | '~' :: '1' :: rest => '/' :: unescapeList rest
  | c :: rest => c :: unescapeList rest
  | [] => []

/-- The key that a segment stands for. -/
def unescape (segment : String) : String :=
  String.ofList (unescapeList segment.toList)

/-- What the reference of a component schema opens with. -/
def schemaRoot : String :=
  "#/components/schemas/"

def path (name : String) : String :=
  "#/paths/" ++ escape name

def schema (name : String) : String :=
  schemaRoot ++ escape name

/-- The pointer to a component of the given sort. -/
def component (sort name : String) : String :=
  "#/components/" ++ sort ++ "/" ++ escape name

def child (owner key : String) : String :=
  owner ++ "/" ++ escape key

end ApiReview.Pointer
