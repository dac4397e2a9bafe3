/-!
# Comparing ASCII letters without case

Header names, media types, file extensions and extra reserved words are
compared ignoring the case of the letters A to Z alone; every other character
must be the same.
-/

namespace ApiReview.Text

/-- The text with each of the letters A to Z in lower case. -/
def asciiLower (s : String) : String :=
  String.ofList (s.toList.map Char.toLower)

/-- Equality that does not look at the case of the letters A to Z. -/
def eqIgnoringAsciiCase (s t : String) : Bool :=
  s.toList.map Char.toLower == t.toList.map Char.toLower

theorem eqIgnoringAsciiCase_comm (s t : String) :
    eqIgnoringAsciiCase s t = eqIgnoringAsciiCase t s := by
  rw [eqIgnoringAsciiCase, eqIgnoringAsciiCase, Bool.eq_iff_iff, beq_iff_eq, beq_iff_eq]
  exact eq_comm

end ApiReview.Text
