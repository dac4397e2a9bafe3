import ApiReview.Text.LetterTable
import ApiReview.Text.Word

/-!
# Letters and numbers of all scripts

The names of groups in patterns are made of them.
-/

namespace ApiReview.Text

/-- A character with the Alphabetic property. -/
def isLetter (c : Char) : Bool :=
  isWordChar c && !nonLetterWordSet.contains c

/-- A letter, a digit or another number. -/
def isLetterOrNumber (c : Char) : Bool :=
  isLetter c || numericSet.contains c

end ApiReview.Text
