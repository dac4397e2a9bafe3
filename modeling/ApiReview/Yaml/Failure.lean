import ApiReview.Reading.Complaint
import ApiReview.Yaml.Fault

/-!
# Why a YAML text is not read

Besides breaks of the grammar there are values of a wrong type, aliases without
an anchor, nesting that is too deep, and texts with several documents.
-/

namespace ApiReview.Yaml

/-- The way from the document to a value in it. -/
inductive Path where
  | root
  | item (parent : Path) (index : Nat)
  | member (parent : Path) (name : String)
  /-- The value that an alias stands for. -/
  | alias (parent : Path)
  /-- A member whose name is no scalar. -/
  | unnamed (parent : Path)
deriving Repr, Inhabited

namespace Path

mutual

/-- The path as a message shows it. -/
def text : Path → String
  | .root => "."
  | .item parent index => text parent ++ "[" ++ toString index ++ "]"
  | .member parent name => opening parent ++ name
  | .alias parent => text parent
  | .unnamed parent => opening parent ++ "?"

/-- What stands before the name of a member. -/
def opening : Path → String
  | .root => ""
  | .item parent index => text parent ++ "[" ++ toString index ++ "]."
  | .member parent name => opening parent ++ name ++ "."
  | .alias parent => text parent ++ "."
  | .unnamed parent => opening parent ++ "?."

end

end Path

/-- Why a text is not read. -/
inductive Failure where
  | broken (fault : Fault)
  | unknownAnchor (mark : Mark)
  | tooDeep (mark : Mark)
  | tooManyAliases
  | endOfText
  | moreDocuments
  /-- A value of a wrong type; it gets its place from the innermost value that is
  read as a whole. -/
  | complaint (complaint : Complaint) (place : Option (Mark × Path))

namespace Failure

/-- Give a complaint its place, unless it has one. -/
def placedAt (mark : Mark) (path : Path) : Failure → Failure
  | .complaint c none => .complaint c (some (mark, path))
  | f => f

def mark? : Failure → Option Mark
  | .broken f => some f.mark
  | .unknownAnchor mark | .tooDeep mark => some mark
  | .complaint _ place => place.map Prod.fst
  | .tooManyAliases | .endOfText | .moreDocuments => none

/-- What a failure says, apart from its place. -/
def words : Failure → String
  | .broken f => f.message
  | .unknownAnchor _ => "unknown anchor"
  | .tooDeep _ => "recursion limit exceeded"
  | .tooManyAliases => "repetition limit exceeded"
  | .endOfText => "EOF while parsing a value"
  | .moreDocuments =>
    "deserializing from YAML containing more than one document is not supported"
  | .complaint c place =>
    match place with
    | none | some (_, .root) => c.message Wording.yaml
    | some (_, path) => path.text ++ ": " ++ c.message Wording.yaml

/-- What a failure says, with its path in front and its place behind. -/
def message (f : Failure) : String :=
  match f with
  | .broken fault => fault.message
  | _ => f.words ++ (f.mark?.map Mark.suffix).getD ""

/-- Line and column of a failure, or the sign for the whole text. -/
def location (f : Failure) : String :=
  (f.mark?.map Mark.location).getD "#"

end Failure

end ApiReview.Yaml
