import ApiReview.Yaml.Token

/-!
# Events of YAML texts

The nodes of a document are listed as events: a scalar or an alias is one event,
and a collection is the events of its items between its start and its end.  The
events of a text that turns out to be broken can be used up to the break.
-/

namespace ApiReview.Yaml

/-- A part of the nodes of a document. -/
inductive Event where
  /-- A node that was given before, by the number of its anchor. -/
  | alias (number : Nat)
  | scalar (tag : Option String) (text : String) (style : ScalarStyle)
  | sequenceStart (tag : Option String)
  | sequenceEnd
  | mappingStart (tag : Option String)
  | mappingEnd
  /-- A text without any document. -/
  | nothing
deriving Repr

/-- How the text goes on behind its first document. -/
inductive Ending where
  | complete
  | moreDocuments
  /-- The grammar is broken inside of the document. -/
  | broken (fault : Fault)
  /-- An alias names no anchor before it. -/
  | unknownAnchor (mark : Mark)
deriving Repr

/-- The events of the first document of a text. -/
structure Contents where
  events : Array (Event × Mark)
  /-- For the number of an anchor, the index of its event; of several entries the
  first one counts. -/
  anchors : List (Nat × Nat)
  ending : Ending

/-- The index of the event that an alias stands for. -/
def Contents.target? (contents : Contents) (number : Nat) : Option Nat :=
  contents.anchors.lookup number

end ApiReview.Yaml
