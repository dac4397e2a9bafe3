/-!
# Cutting text into pieces

Cutting at a separator keeps the empty pieces, so that joining the pieces with
the separator gives the text back.
-/

namespace ApiReview.Text

/-- The pieces between the characters that satisfy `isCut`, empty ones kept;
there is always at least one. -/
def cutList (isCut : Char → Bool) : List Char → List (List Char)
  | [] => [[]]
  | c :: rest =>
    if isCut c then
      [] :: cutList isCut rest
    else
      match cutList isCut rest with
      | [] => [[c]]
      | piece :: pieces => (c :: piece) :: pieces

/-- The pieces of a text between two occurrences of a separator. -/
def cutAt (separator : Char) (s : String) : List String :=
  (cutList (· == separator) s.toList).map String.ofList

/-- The text after the last occurrence of a character, or the whole text when
the character does not occur. -/
def afterLast (separator : Char) (s : String) : String :=
  String.ofList (s.toList.reverse.takeWhile (· != separator)).reverse

/-- Does `part` stand somewhere in the list? -/
def containsList (part : List Char) : List Char → Bool
  | [] => part.isEmpty
  | c :: rest => part.isPrefixOf (c :: rest) || containsList part rest

/-- Does `part` stand somewhere in the text? -/
def contains (s part : String) : Bool :=
  containsList part.toList s.toList

/-- The rest of the text after an opening part, if the text opens with it. -/
def dropOpening? (opening s : String) : Option String :=
  if opening.toList.isPrefixOf s.toList then
    some (String.ofList (s.toList.drop opening.toList.length))
  else
    none

/-- The text filled with blanks on the right up to a width. -/
def padRight (width : Nat) (s : String) : String :=
  s ++ String.ofList (List.replicate (width - s.length) ' ')

end ApiReview.Text
