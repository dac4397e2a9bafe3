/-!
# Blank characters

A name, a title or a description counts as missing when it holds nothing but
blanks.  A blank is a character with the White_Space property, so the full
Unicode set is meant and not only the six of ASCII.
-/

namespace ApiReview.Text

/-- The characters with the White_Space property. -/
def isBlankChar (c : Char) : Bool :=
  let n := c.toNat
  (9 ≤ n && n ≤ 13) || n == 0x20 || n == 0x85 || n == 0xA0 || n == 0x1680 ||
    (0x2000 ≤ n && n ≤ 0x200A) || n == 0x2028 || n == 0x2029 || n == 0x202F ||
    n == 0x205F || n == 0x3000

/-- The text from its first character that is not blank. -/
def trimStart (s : String) : String :=
  String.ofList (s.toList.dropWhile isBlankChar)

/-- The text without the blanks at its two ends. -/
def trim (s : String) : String :=
  String.ofList ((s.toList.dropWhile isBlankChar).reverse.dropWhile isBlankChar).reverse

/-- No character, or blanks only. -/
def isBlank (s : String) : Bool :=
  s.toList.all isBlankChar

/-- An absent text counts as blank. -/
def isMissing (s : Option String) : Bool :=
  s.all isBlank

end ApiReview.Text
