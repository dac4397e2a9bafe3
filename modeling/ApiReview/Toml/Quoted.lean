import ApiReview.Number.FromText

/-!
# Quoted texts

A text is written between quotes or between apostrophes, one of them for a
single line and three for several lines.  Between quotes a backslash escapes;
between apostrophes it stands for itself.  A line break at the start of a text
of several lines does not count, and up to two quotes may stand before the three
that close it.

All readers give what they read together with the rest behind it.
-/

namespace ApiReview.Toml

/-- May a character stand in a text or a comment? -/
def isTextChar (c : Char) : Bool :=
  c == '\t' || (' ' ≤ c && c != '\x7f')

/-- A blank inside of a line. -/
def isBlank (c : Char) : Bool :=
  c == ' ' || c == '\t'

/-- Put a character in front of what is read. -/
def prepend (c : Char) (read : Option (List Char × List Char)) :
    Option (List Char × List Char) :=
  read.map fun (text, rest) => (c :: text, rest)

/-- The character that a short escape stands for. -/
def shortEscape? (c : Char) : Option Char :=
  [('b', '\x08'), ('t', '\t'), ('n', '\n'), ('f', '\x0c'), ('r', '\r'), ('"', '"'),
   ('\\', '\\')].lookup c

/-- The character whose code point is given by hexadecimal digits. -/
def codePoint? (digits : List Char) : Option Char :=
  (natOfDigits? 16 digits).bind fun n => if n.isValidChar then some (Char.ofNat n) else none

/-- What reading a text is in the midst of. -/
inductive TextState where
  | plain
  /-- Behind a backslash that should end its line. -/
  | lineEnd
  /-- Behind the break of such a line, where blanks and breaks do not count. -/
  | joined
deriving DecidableEq, Repr

/-- The rest of a text between quotes. -/
def quotedFrom (multi : Bool) : TextState → List Char → Option (List Char × List Char)
  | _, [] => none
  | .lineEnd, c :: rest =>
    if isBlank c then quotedFrom multi .lineEnd rest
    else if c == '\n' then quotedFrom multi .joined rest
    else none
  | _, '"' :: rest =>
    if multi then
      match rest with
      | '"' :: '"' :: '"' :: '"' :: behind => some (['"', '"'], behind)
      | '"' :: '"' :: '"' :: behind => some (['"'], behind)
      | '"' :: '"' :: behind => some ([], behind)
      | _ => prepend '"' (quotedFrom multi .plain rest)
    else
      some ([], rest)
  | _, '\\' :: rest =>
    match rest with
    | 'u' :: a :: b :: c :: d :: behind =>
      (codePoint? [a, b, c, d]).bind fun char =>
        prepend char (quotedFrom multi .plain behind)
    | 'U' :: a :: b :: c :: d :: e :: f :: g :: h :: behind =>
      (codePoint? [a, b, c, d, e, f, g, h]).bind fun char =>
        prepend char (quotedFrom multi .plain behind)
    | c :: behind =>
      match shortEscape? c with
      | some char => prepend char (quotedFrom multi .plain behind)
      | none =>
        if multi && isBlank c then quotedFrom multi .lineEnd behind
        else if multi && c == '\n' then quotedFrom multi .joined behind
        else none
    | [] => none
  | state, c :: rest =>
    if state = .joined ∧ (isBlank c ∨ c = '\n') then quotedFrom multi .joined rest
    else if isTextChar c || (multi && c == '\n') then
      prepend c (quotedFrom multi .plain rest)
    else none

/-- The rest of a text between apostrophes. -/
def literalFrom (multi : Bool) : List Char → Option (List Char × List Char)
  | [] => none
  | '\'' :: rest =>
    if multi then
      match rest with
      | '\'' :: '\'' :: '\'' :: '\'' :: behind => some (['\'', '\''], behind)
      | '\'' :: '\'' :: '\'' :: behind => some (['\''], behind)
      | '\'' :: '\'' :: behind => some ([], behind)
      | _ => prepend '\'' (literalFrom multi rest)
    else
      some ([], rest)
  | c :: rest =>
    if isTextChar c || (multi && c == '\n') then prepend c (literalFrom multi rest)
    else none

/-- What follows a line break, if there is one. -/
def dropBreak : List Char → List Char
  | '\n' :: rest => rest
  | chars => chars

def lineText? : List Char → Option (List Char × List Char)
  | '"' :: rest => quotedFrom false .plain rest
  | '\'' :: rest => literalFrom false rest
  | _ => none

/-- A text of one or of several lines. -/
def text? : List Char → Option (List Char × List Char)
  | '"' :: '"' :: '"' :: rest => quotedFrom true .plain (dropBreak rest)
  | '\'' :: '\'' :: '\'' :: rest => literalFrom true (dropBreak rest)
  | chars => lineText? chars

end ApiReview.Toml
