import ApiReview.Text.WordTable

/-!
# Word characters

Names are cut at everything that is not a word character.  Word characters are
the letters, marks, decimal digits, connectors such as the underscore, and the
two joiners.
-/

namespace ApiReview.Text

/-- An ASCII letter, an ASCII digit or the underscore. -/
def isAsciiWordChar (c : Char) : Bool :=
  c.isAlphanum || c == '_'

/-- A letter, mark, decimal digit, connector or joiner of any script. -/
def isWordChar (c : Char) : Bool :=
  if c.toNat < 128 then isAsciiWordChar c else wordSet.contains c

theorem isWordChar_of_ascii {c : Char} (h : c.toNat < 128) :
    isWordChar c = isAsciiWordChar c := by
  simp [isWordChar, h]

end ApiReview.Text
