/-!
# Reading bytes as text

Bytes that are no UTF-8 text can still be read: each longest beginning of a
character that breaks off, and each byte that begins none, is replaced by the
replacement character U+FFFD.
-/

namespace ApiReview.Text.Utf8

/-- A character of which some bytes were read. -/
structure Partial where
  /-- The bits that the bytes so far give. -/
  bits : Nat
  /-- How many bytes are missing. -/
  missing : Nat
  /-- The least and the greatest value that the next byte may have. -/
  least : Nat := 0x80
  greatest : Nat := 0xBF

/-- The character that a byte of more than seven bits begins.  The ranges of the
second byte leave out spellings that are too long, surrogates, and what lies
behind the last code point. -/
def begin? (byte : Nat) : Option Partial :=
  if byte < 0xC2 then none
  else if byte < 0xE0 then some ⟨byte - 0xC0, 1, 0x80, 0xBF⟩
  else if byte < 0xF0 then
    some ⟨byte - 0xE0, 2, if byte = 0xE0 then 0xA0 else 0x80,
      if byte = 0xED then 0x9F else 0xBF⟩
  else if byte < 0xF5 then
    some ⟨byte - 0xF0, 3, if byte = 0xF0 then 0x90 else 0x80,
      if byte = 0xF4 then 0x8F else 0xBF⟩
  else none

/-- What stands in place of bytes that are no character. -/
def replacement : Char :=
  '\ufffd'

/-- Read bytes, the first ones of which may continue a character. -/
def readFrom : Option Partial → List UInt8 → List Char
  | none, [] => []
  | some _, [] => [replacement]
  | none, byte :: rest =>
    if byte.toNat < 0x80 then Char.ofNat byte.toNat :: readFrom none rest
    else
      match begin? byte.toNat with
      | some begun => readFrom (some begun) rest
      | none => replacement :: readFrom none rest
  | some p, byte :: rest =>
    if p.least ≤ byte.toNat ∧ byte.toNat ≤ p.greatest then
      let bits := p.bits * 64 + byte.toNat % 64
      if p.missing ≤ 1 then Char.ofNat bits :: readFrom none rest
      else readFrom (some ⟨bits, p.missing - 1, 0x80, 0xBF⟩) rest
    else if byte.toNat < 0x80 then
      replacement :: Char.ofNat byte.toNat :: readFrom none rest
    else
      match begin? byte.toNat with
      | some begun => replacement :: readFrom (some begun) rest
      | none => replacement :: replacement :: readFrom none rest

/-- What can be read of some bytes. -/
def readable (bytes : List UInt8) : String :=
  String.ofList (readFrom none bytes)

end ApiReview.Text.Utf8
