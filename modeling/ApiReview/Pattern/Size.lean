import ApiReview.Pattern.CharRanges
import ApiReview.Pattern.Meaning
import ApiReview.Text.Blank
import ApiReview.Text.Letter

/-!
# The size of compiled patterns

A pattern is compiled to states that each take 32 bytes, and 4 or 8 more for each
way on.  A counted repetition is written out as often as its count says, so a
short pattern can become large.  A class beyond ASCII becomes the tree of the
byte sequences of its characters.
-/

namespace ApiReview.Pattern

/-- The bytes of a state. -/
def stateSize : Nat :=
  32

/-- The bytes of a state with several ways on. -/
def forkSize (ways : Nat) : Nat :=
  stateSize + 4 * ways

namespace CharRanges

/-- The ASCII characters of word characters. -/
def asciiWord : CharRanges :=
  [(0x30, 0x39), (0x41, 0x5A), (0x5F, 0x5F), (0x61, 0x7A)]

/-- The characters of a class of one letter. -/
def ofCommon (unicode : Bool) : CommonClass → CharRanges
  | .digit => if unicode then ofSet Text.decimalDigitSet else [(0x30, 0x39)]
  | .space =>
    if unicode then
      [(9, 13), (0x20, 0x20), (0x85, 0x85), (0xA0, 0xA0), (0x1680, 0x1680),
       (0x2000, 0x200A), (0x2028, 0x2029), (0x202F, 0x202F), (0x205F, 0x205F),
       (0x3000, 0x3000)]
    else [(9, 13), (0x20, 0x20)]
  | .word => if unicode then asciiWord ++ ofSet Text.wordSet else asciiWord

/-- The characters of a named class of ASCII characters. -/
def ofAsciiName (name : String) : CharRanges :=
  match name with
  | "alnum" => [(0x30, 0x39), (0x41, 0x5A), (0x61, 0x7A)]
  | "alpha" => [(0x41, 0x5A), (0x61, 0x7A)]
  | "blank" => [(9, 9), (0x20, 0x20)]
  | "cntrl" => [(0, 0x1F), (0x7F, 0x7F)]
  | "digit" => [(0x30, 0x39)]
  | "graph" => [(0x21, 0x7E)]
  | "lower" => [(0x61, 0x7A)]
  | "print" => [(0x20, 0x7E)]
  | "punct" => [(0x21, 0x2F), (0x3A, 0x40), (0x5B, 0x60), (0x7B, 0x7E)]
  | "space" => [(9, 13), (0x20, 0x20)]
  | "upper" => [(0x41, 0x5A)]
  | "word" => asciiWord
  | "xdigit" => [(0x30, 0x39), (0x41, 0x46), (0x61, 0x66)]
  | _ => [(0, 0x7F)]

/-- The set with the other case of its ASCII letters. -/
def foldCase (s : CharRanges) : CharRanges :=
  let shifted (from_ to_ : Nat) (distance : Int) : CharRanges :=
    (inter s [(from_, to_)]).map fun (a, b) =>
      (((a : Int) + distance).toNat, ((b : Int) + distance).toNat)
  let folded := union s (shifted 0x41 0x5A 32 ++ shifted 0x61 0x7A (-32))
  let with_ (letter sign : Nat) : CharRanges :=
    if (inter folded [(letter, letter)]).isEmpty then [] else [(sign, sign)]
  union folded (with_ 0x6B 0x212A ++ with_ 0x73 0x17F)

/-- The size of a class. -/
def size (s : CharRanges) : Nat :=
  match s with
  | [] => stateSize
  | [(first, last)] =>
    if first == last then stateSize * (bytes first).length
    else whole
  | _ => whole
where
  /-- The size of a class of several characters. -/
  whole : Nat :=
    if s.all (·.2 < 0x80) then 2 * stateSize + 8 * s.length
    else
      let all := s.sequences
      stateSize + forkSize all.length + stateSize * nodes [] all

end CharRanges

/-- A class as far as its size is concerned: ranges, and the sizes of the
properties in it. -/
structure ClassShape where
  ranges : CharRanges := []
  propertySize : Nat := 0

namespace ClassShape

/-- The other characters; properties keep their size. -/
def negate (c : ClassShape) : ClassShape :=
  if c.propertySize == 0 then { c with ranges := c.ranges.complement } else c

def size (c : ClassShape) : Nat :=
  c.propertySize + (if c.propertySize != 0 && c.ranges.isEmpty then 0 else c.ranges.size)

/-- The class with the other cases of its letters, where case does not count. -/
def folded (m : Mode) (c : ClassShape) : ClassShape :=
  if m.ignoreCase then { c with ranges := c.ranges.foldCase } else c

end ClassShape

def PropertyName.size (name : PropertyName) : Nat :=
  match name.toClass with
  | .ok c => c.size
  | .error _ => 0

/-- Apply a negation, if there is one. -/
def ClassShape.negateIf (negated : Bool) (c : ClassShape) : ClassShape :=
  if negated then c.negate else c

mutual

def ClassTree.shape (m : Mode) : ClassTree → ClassShape
  | .empty => {}
  | .literal l => ({ ranges := [(l.char.toNat, l.char.toNat)] } : ClassShape).folded m
  | .range first last =>
    ({ ranges := [(first.char.toNat, last.char.toNat)] } : ClassShape).folded m
  | .ascii name negated =>
    (({ ranges := .ofAsciiName name } : ClassShape).folded m).negateIf negated
  | .common kind negated =>
    ({ ranges := .ofCommon m.unicode kind } : ClassShape).negateIf negated
  | .property name _ => { propertySize := name.size }
  | .bracketed negated inside => (inside.shape m).negateIf negated
  | .union items => ClassTree.shapeOfItems m items
  | .combined operator left right =>
    let a := left.shape m
    let b := right.shape m
    let ranges :=
      match operator with
      | .intersection => a.ranges.inter b.ranges
      | .difference => a.ranges.diff b.ranges
      | .symmetricDifference => (a.ranges.union b.ranges).diff (a.ranges.inter b.ranges)
    { ranges, propertySize := max a.propertySize b.propertySize }

def ClassTree.shapeOfItems (m : Mode) : List ClassTree → ClassShape
  | [] => {}
  | item :: rest =>
    let a := item.shape m
    let b := ClassTree.shapeOfItems m rest
    { ranges := a.ranges.union b.ranges, propertySize := a.propertySize + b.propertySize }

end

/-- A compiled pattern as far as repetitions are concerned. -/
structure Program where
  size : Nat
  /-- Can it match the empty text? -/
  nullable : Bool
  /-- Can it match nothing but the empty text? -/
  void : Bool

namespace Program

/-- The program that matches the empty text and takes no room in a sequence. -/
def nothing : Program :=
  ⟨0, true, true⟩

/-- The room of a program that stands alone. -/
def alone (p : Program) : Nat :=
  max p.size stateSize

/-- A program repeated without an upper bound. -/
def atLeast (p : Program) (least : Nat) : Program :=
  match least with
  | 0 =>
    if p.nullable then ⟨p.alone + 2 * forkSize 2 + stateSize, true, p.void⟩
    else ⟨p.alone + forkSize 2, true, p.void⟩
  | n + 1 => ⟨(n + 1) * p.alone + forkSize 2, p.nullable, p.void⟩

/-- A program repeated between `least` and `most` times. -/
def between (p : Program) (least most : Nat) : Program :=
  let optional := most - least
  let rest := if optional == 0 then 0 else stateSize + optional * (p.alone + forkSize 2)
  ⟨least * p.alone + rest, p.nullable || least == 0, p.void⟩

/-- A repetition.  What matches only the empty text is repeated once at most. -/
def repeated (p : Program) (least : Nat) (most : Option Nat) : Program :=
  let (least, most) := if p.void then (min least 1, some ((most.getD 1).min 1)) else (least, most)
  match most with
  | none => p.atLeast least
  | some 0 => nothing
  | some most => if least == 1 && most == 1 then p else p.between least most

end Program

/-- The size of a character. -/
def Literal.program (m : Mode) (l : Literal) : Program :=
  ⟨((ClassTree.literal l).shape m).size, false, false⟩

/-- The class that a part of a pattern is, if it is one character or a class. -/
def Tree.class? (m : Mode) : Tree → Option ClassShape
  | .literal l => some ((ClassTree.literal l).shape m)
  | .common kind negated => some ((ClassTree.common kind negated).shape m)
  | .property name negated => some ((ClassTree.property name negated).shape m)
  | .bracketed negated inside => some ((ClassTree.bracketed negated inside).shape m)
  | .dot =>
    some { ranges := if m.dotMatchesBreak then [(0, CharRanges.top)]
                     else CharRanges.complement [(10, 10)] }
  | _ => none

mutual

/-- The compiled pattern, and the mode behind it. -/
def Tree.program (m : Mode) : Tree → Program × Mode
  | .empty => (.nothing, m)
  | .bound => (⟨stateSize, true, true⟩, m)
  | .flags changes => (.nothing, m.apply changes)
  | .repetition least most body =>
    let (p, m) := body.program m
    (p.repeated least most, m)
  | .group capturing changes body =>
    let (p, _) := body.program (m.apply changes)
    ({ p with size := if capturing then p.alone + 2 * stateSize else p.size }, m)
  | .sequence parts => Tree.programOfParts m parts
  | .alternatives branches =>
    match branches.mapM (Tree.class? m) with
    | some classes =>
      let ranges := CharRanges.ofList (classes.flatMap (·.ranges))
      let propertySize := (classes.map (·.propertySize)).sum
      (⟨({ ranges, propertySize } : ClassShape).size, false, false⟩, m)
    | none =>
      let (p, m) := Tree.programOfBranches m branches
      ({ p with size := p.size + forkSize branches.length + stateSize }, m)
  | .literal l => (l.program m, m)
  | .dot => (⟨((Tree.dot.class? m).getD {}).size, false, false⟩, m)
  | .common kind negated => (⟨((ClassTree.common kind negated).shape m).size, false, false⟩, m)
  | .property name _ => (⟨name.size, false, false⟩, m)
  | .bracketed negated inside =>
    (⟨((ClassTree.bracketed negated inside).shape m).size, false, false⟩, m)

/-- Parts compiled one after the other. -/
def Tree.programOfParts (m : Mode) : List Tree → Program × Mode
  | [] => (.nothing, m)
  | part :: rest =>
    let (p, m) := part.program m
    let (q, m) := Tree.programOfParts m rest
    (⟨p.size + q.size, p.nullable && q.nullable, p.void && q.void⟩, m)

/-- Alternatives compiled beside each other. -/
def Tree.programOfBranches (m : Mode) : List Tree → Program × Mode
  | [] => (⟨0, false, true⟩, m)
  | branch :: rest =>
    let (p, m) := branch.program m
    let (q, m) := Tree.programOfBranches m rest
    (⟨p.alone + q.size, p.nullable || q.nullable, p.void && q.void⟩, m)

end

def Tree.size (t : Tree) : Nat :=
  (t.program {}).1.alone

end ApiReview.Pattern
