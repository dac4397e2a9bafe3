import ApiReview.Document.Schema

/-!
# Walking over a schema

The walk over a schema visits the node itself, then what stands below each
property, the items, and the members of each composition branch.  References
are leaves.  The target of a reference is open while the reference is visited,
and a reference to a name that is open already is passed over.  A visit tells
where the node stands: its path, its slot in the node above, and that node.
-/

namespace ApiReview

/-- Where a node stands in the node above it. -/
inductive Slot where
  /-- The start of the walk. -/
  | root
  | property (name : String)
  | items
  | allOf (index : Nat)
  | oneOf (index : Nat)
  | anyOf (index : Nat)
deriving DecidableEq, Repr

/-- What a slot adds to the path. -/
def Slot.text : Slot → String
  | .root => ""
  | .property name => "." ++ name
  | .items => ".items"
  | .allOf index => ".allOf[" ++ toString index ++ "]"
  | .oneOf index => ".oneOf[" ++ toString index ++ "]"
  | .anyOf index => ".anyOf[" ++ toString index ++ "]"

/-- One step of a walk. -/
structure Visit where
  schema : Schema
  path : String
  slot : Slot
  parent : Option Schema

/-- What is carried along on a walk. -/
structure Walking (σ : Type) where
  /-- The targets of references that are open. -/
  opened : List String
  /-- What the visitor has gathered. -/
  gathered : σ

namespace Walking

variable {σ : Type}

def meet (visit : σ → Visit → σ) (v : Visit) (w : Walking σ) : Walking σ :=
  { w with gathered := visit w.gathered v }

/-- Meet a reference while its target is open, unless it is open already. -/
def meetReference (visit : σ → Visit → σ) (target : String) (v : Visit) (w : Walking σ) :
    Walking σ :=
  if w.opened.contains target then w
  else
    let inside := Walking.meet visit v { w with opened := target :: w.opened }
    { inside with opened := inside.opened.erase target }

/-- The target of a reference is not open any more when the reference has been
visited. -/
theorem meetReference_eq {visit : σ → Visit → σ} {target : String} {v : Visit}
    {w : Walking σ} :
    w.meetReference visit target v =
      if w.opened.contains target then w else w.meet visit v := by
  unfold meetReference
  split
  · rfl
  · simp [meet]

end Walking

namespace Schema

variable {σ : Type}

mutual

/-- Walk over a node, which stands at a path and in a slot of the node above. -/
def walkNode (visit : σ → Visit → σ) (node : Schema) (path : String) (slot : Slot)
    (parent : Option Schema) (w : Walking σ) : Walking σ :=
  match node.referenceTarget with
  | some target => w.meetReference visit target ⟨node, path, slot, parent⟩
  | none =>
    match node with
    | ⟨k, properties, items, allOf, oneOf, anyOf, additional⟩ =>
      let self : Schema := ⟨k, properties, items, allOf, oneOf, anyOf, additional⟩
      let w := w.meet visit ⟨self, path, slot, parent⟩
      let w := walkProperties visit self path properties w
      let w := walkItems visit self path items w
      let w := walkMembers visit self path Slot.allOf 0 allOf w
      let w := walkMembers visit self path Slot.oneOf 0 oneOf w
      walkMembers visit self path Slot.anyOf 0 anyOf w
termination_by structural node

/-- Walk over the properties of a node. -/
def walkProperties (visit : σ → Visit → σ) (parent : Schema) (path : String)
    (properties : List (String × Schema)) (w : Walking σ) : Walking σ :=
  match properties with
  | [] => w
  | (name, s) :: rest =>
    let slot := Slot.property name
    walkProperties visit parent path rest
      (walkNode visit s (path ++ slot.text) slot (some parent) w)
termination_by structural properties

/-- Walk over the items of a node. -/
def walkItems (visit : σ → Visit → σ) (parent : Schema) (path : String)
    (items : Option Schema) (w : Walking σ) : Walking σ :=
  match items with
  | none => w
  | some s => walkNode visit s (path ++ Slot.items.text) .items (some parent) w
termination_by structural items

/-- Walk over the members of a composition branch, counted from `index`. -/
def walkMembers (visit : σ → Visit → σ) (parent : Schema) (path : String)
    (slot : Nat → Slot) (index : Nat) (members : List Schema) (w : Walking σ) : Walking σ :=
  match members with
  | [] => w
  | s :: rest =>
    walkMembers visit parent path slot (index + 1) rest
      (walkNode visit s (path ++ (slot index).text) (slot index) (some parent) w)
termination_by structural members

end

/-- Walk over a schema from its root. -/
def walkWith (visit : σ → Visit → σ) (root : Schema) (path : String) (w : Walking σ) :
    Walking σ :=
  walkNode visit root path .root none w

/-- The visits of the walk over a node, when the names `opened` are open. -/
def visitsFrom (opened : List String) (node : Schema) (path : String) (slot : Slot)
    (parent : Option Schema) : List Visit :=
  (walkNode (fun visits v => v :: visits) node path slot parent ⟨opened, []⟩).gathered.reverse

/-- The walk over a schema whose path is given, when some names are open
already. -/
def walk (node : Schema) (path : String) (opened : List String) : List Visit :=
  visitsFrom opened node path .root none

end Schema

end ApiReview
