import ApiReview.Text.UnprintableTable

/-!
# Characters that a message does not show as themselves
-/

namespace ApiReview.Text

/-- Control characters, and above ASCII the characters that print nothing of
their own or only extend the one before them. -/
def isUnprintable (c : Char) : Bool :=
  if c.toNat < 128 then c.toNat < 32 || c.toNat == 127 else unprintableSet.contains c

end ApiReview.Text
