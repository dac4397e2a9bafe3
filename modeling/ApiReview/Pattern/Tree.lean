import ApiReview.Pattern.Fault

/-!
# Patterns as trees

A pattern is a tree of literals, classes, assertions, repetitions, groups,
alternatives and sequences.  The tree keeps what the later checks ask for: the
flags of groups, how a literal is written, and the nesting of classes.
-/

namespace ApiReview.Pattern

inductive Flag where
  | ignoreCase
  | multiLine
  | dotMatchesBreak
  | swapGreed
  | unicode
  | carriageReturn
  | ignoreSpace
deriving DecidableEq, Repr

/-- The flag of a letter. -/
def Flag.ofChar? : Char → Option Flag
  | 'i' => some .ignoreCase
  | 'm' => some .multiLine
  | 's' => some .dotMatchesBreak
  | 'U' => some .swapGreed
  | 'u' => some .unicode
  | 'R' => some .carriageReturn
  | 'x' => some .ignoreSpace
  | _ => none

/-- Flags that are switched on or off. -/
abbrev FlagChanges := List (Flag × Bool)

/-- A literal character.  One that is written as a byte with two hexadecimal
digits stands for that byte where the pattern is not Unicode. -/
structure Literal where
  char : Char
  asByte : Bool := false
deriving DecidableEq, Repr

/-- The classes of one letter. -/
inductive CommonClass where
  | digit
  | space
  | word
deriving DecidableEq, Repr

/-- A class named by a Unicode property. -/
inductive PropertyName where
  | single (name : String)
  | valued (name value : String)
deriving DecidableEq, Repr

/-- How two sets of characters are combined. -/
inductive SetOperator where
  | intersection
  | difference
  | symmetricDifference
deriving DecidableEq, Repr

inductive ClassTree where
  | empty
  | literal (value : Literal)
  | range (first last : Literal)
  | ascii (name : String) (negated : Bool)
  | common (kind : CommonClass) (negated : Bool)
  | property (name : PropertyName) (negated : Bool)
  | bracketed (negated : Bool) (inside : ClassTree)
  | union (items : List ClassTree)
  | combined (operator : SetOperator) (left right : ClassTree)
deriving Repr, Inhabited

def ClassTree.ofItems : List ClassTree → ClassTree
  | [] => .empty
  | [item] => item
  | items => .union items

inductive Tree where
  | empty
  | flags (changes : FlagChanges)
  | literal (value : Literal)
  | dot
  /-- An assertion, which matches no character. -/
  | bound
  | common (kind : CommonClass) (negated : Bool)
  | property (name : PropertyName) (negated : Bool)
  | bracketed (negated : Bool) (inside : ClassTree)
  | repetition (least : Nat) (most : Option Nat) (body : Tree)
  | group (capturing : Bool) (changes : FlagChanges) (body : Tree)
  | alternatives (branches : List Tree)
  | sequence (parts : List Tree)
deriving Repr, Inhabited

/-- The pattern of some parts, one after the other. -/
def Tree.ofParts : List Tree → Tree
  | [] => .empty
  | [part] => part
  | parts => .sequence parts

mutual

/-- How deeply a class is nested; items by themselves do not count. -/
def ClassTree.depth : ClassTree → Nat
  | .bracketed _ inside => inside.depth + 1
  | .union items => ClassTree.depthOfItems items + 1
  | .combined _ left right => max left.depth right.depth + 1
  | _ => 0

/-- The greatest depth among items. -/
def ClassTree.depthOfItems : List ClassTree → Nat
  | [] => 0
  | item :: rest => max item.depth (ClassTree.depthOfItems rest)

end

mutual

/-- How deeply a pattern is nested. -/
def Tree.depth : Tree → Nat
  | .bracketed _ inside => inside.depth + 1
  | .repetition _ _ body => body.depth + 1
  | .group _ _ body => body.depth + 1
  | .alternatives branches => Tree.depthOfParts branches + 1
  | .sequence parts => Tree.depthOfParts parts + 1
  | _ => 0

/-- The greatest depth among parts. -/
def Tree.depthOfParts : List Tree → Nat
  | [] => 0
  | part :: rest => max part.depth (Tree.depthOfParts rest)

end

end ApiReview.Pattern
