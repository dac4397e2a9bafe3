import ApiReview.Pattern.Property

/-!
# What a pattern may ask for

A pattern matches texts.  Where it is not Unicode it speaks about bytes, and then
nothing in it may match a byte beyond ASCII by itself.  Properties need to be
known, and need a pattern that is Unicode.
-/

namespace ApiReview.Pattern

/-- The flags that hold at some place of a pattern. -/
structure Mode where
  unicode : Bool := true
  ignoreCase : Bool := false
  dotMatchesBreak : Bool := false

def Mode.apply (m : Mode) (changes : FlagChanges) : Mode where
  unicode := (changes.lookup .unicode).getD m.unicode
  ignoreCase := (changes.lookup .ignoreCase).getD m.ignoreCase
  dotMatchesBreak := (changes.lookup .dotMatchesBreak).getD m.dotMatchesBreak

/-- Nothing is wrong, unless a negation could match a byte beyond ASCII. -/
def checkNegation (unicode negated : Bool) : Except Fault Unit :=
  if negated && !unicode then .error .noText else .ok ()

/-- Does the literal stand for a byte beyond ASCII where a pattern is not
Unicode? -/
def Literal.isLoneByte (l : Literal) : Bool :=
  l.asByte && 0x7F < l.char.toNat

def PropertyName.check (unicode : Bool) (name : PropertyName) : Except Fault Unit := do
  if unicode then
    let _ ← name.toClass
  else
    throw .notUnicode

def Literal.checkInClass (unicode : Bool) (l : Literal) : Except Fault Unit :=
  if unicode then .ok ()
  else if l.isLoneByte then .error .noText
  else if 0x7F < l.char.toNat then .error .notUnicode
  else .ok ()

mutual

def ClassTree.check (unicode : Bool) : ClassTree → Except Fault Unit
  | .empty => .ok ()
  | .literal l => l.checkInClass unicode
  | .range first last => do
    first.checkInClass unicode
    last.checkInClass unicode
  | .ascii _ negated => checkNegation unicode negated
  | .common _ negated => checkNegation unicode negated
  | .property name _ => name.check unicode
  | .bracketed negated inside => do
    inside.check unicode
    checkNegation unicode negated
  | .union items => ClassTree.checkItems unicode items
  | .combined _ left right => do
    left.check unicode
    right.check unicode

def ClassTree.checkItems (unicode : Bool) : List ClassTree → Except Fault Unit
  | [] => .ok ()
  | item :: rest => do
    item.check unicode
    ClassTree.checkItems unicode rest

end

mutual

/-- Check a pattern; the result is the mode behind it. -/
def Tree.check (m : Mode) : Tree → Except Fault Mode
  | .empty => .ok m
  | .bound => .ok m
  | .flags changes => .ok (m.apply changes)
  | .literal l => if !m.unicode && l.isLoneByte then .error .noText else .ok m
  | .dot => if m.unicode then .ok m else .error .noText
  | .common _ negated => do
    checkNegation m.unicode negated
    .ok m
  | .property name _ => do
    name.check m.unicode
    .ok m
  | .bracketed negated inside => do
    inside.check m.unicode
    checkNegation m.unicode negated
    .ok m
  | .repetition _ _ body => body.check m
  | .group _ changes body => do
    let _ ← body.check (m.apply changes)
    .ok m
  | .alternatives branches => Tree.checkParts m branches
  | .sequence parts => Tree.checkParts m parts

def Tree.checkParts (m : Mode) : List Tree → Except Fault Mode
  | [] => .ok m
  | part :: rest => do
    let m ← part.check m
    Tree.checkParts m rest

end

end ApiReview.Pattern
