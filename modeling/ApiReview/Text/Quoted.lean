import ApiReview.Text.Unprintable

/-!
# Texts shown inside of a message

A message that complains about a text shows it between quotes.  Control
characters, other characters that print nothing, and combining characters are
shown by their code point, so that the message stays readable.
-/

namespace ApiReview.Text

/-- How a character is shown inside of a quoted text. -/
def showChar (c : Char) : List Char :=
  if c == '\x00' then ['\\', '0']
  else if c == '\t' then ['\\', 't']
  else if c == '\r' then ['\\', 'r']
  else if c == '\n' then ['\\', 'n']
  else if c == '"' then ['\\', '"']
  else if c == '\\' then ['\\', '\\']
  else if isUnprintable c then
    ['\\', 'u', '\x7b'] ++ Nat.toDigits 16 c.toNat ++ ['\x7d']
  else [c]

/-- The text between quotes as a message shows it. -/
def shown (s : String) : String :=
  String.ofList ('"' :: (s.toList.flatMap showChar ++ ['"']))

end ApiReview.Text
