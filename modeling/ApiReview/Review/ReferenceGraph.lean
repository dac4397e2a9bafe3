import ApiReview.Review.Session

/-!
# Reference loops

The references between component schemas form a graph.  Its nodes are the
entered schemas in their order, then the names that only occur as targets.  A
loop is a closed walk through distinct names, written from its earliest name and
back to it.

A loop never leaves its strongly connected component, so the components are
found first, and each name of a component starts a search that steps only onto
later names of the component that are not on the walk yet.
-/

namespace ApiReview

/-- The names along a loop; the first one is repeated at the end. -/
abbrev Loop := List String

/-- The key of a loop: its names ascending, without repetition, joined by
commas. -/
def Loop.key (loop : Loop) : String :=
  ",".intercalate (loop.foldr ReferenceMap.insertName [])

/-- A graph over names, with the nodes in a fixed order. -/
structure ReferenceGraph where
  nodes : List String
  references : ReferenceMap
deriving Repr

namespace ReferenceGraph

/-- Add a node at the end, unless it is there. -/
def addNode (nodes : List String) (name : String) : List String :=
  if nodes.contains name then nodes else nodes ++ [name]

/-- The graph of a reference map: entered names first, targets as they come. -/
def ofReferences (m : ReferenceMap) : ReferenceGraph where
  nodes := (m.flatMap (·.2)).foldl addNode (m.names.foldl addNode [])
  references := m

/-- The names to which a node refers, ascending. -/
def targets (g : ReferenceGraph) (name : String) : List String :=
  (g.references.get? name).getD []

/-- The edges in the order in which they are entered. -/
def edges (g : ReferenceGraph) : List (String × String) :=
  g.references.flatMap fun (name, targets) => targets.map (name, ·)

/-- All that is reached from the names in `work`, together with `seen`, which
holds them already.  Each round takes one name off `work`, and a name gets onto
it once. -/
def closure (g : ReferenceGraph) : Nat → List String → List String → List String
  | 0, _, seen => seen
  | _ + 1, [], seen => seen
  | rounds + 1, name :: work, seen =>
    let fresh := (g.targets name).filter fun next => !seen.contains next
    closure g rounds (fresh ++ work) (seen ++ fresh)

/-- The names that are reached from a node over one edge or more. -/
def reachable (g : ReferenceGraph) (name : String) : List String :=
  g.closure (g.nodes.length + 1) (g.targets name) (g.targets name)

/-- The nodes that lie on a loop, grouped into strongly connected components.
Each component lists its nodes in their order, and the components stand in the
order of their first nodes. -/
def components (g : ReferenceGraph) : List (List String) :=
  let reach := g.nodes.map fun name => (name, g.reachable name)
  let looping := reach.filter fun (name, names) => names.contains name
  let groups := looping.map fun (name, names) =>
    looping.filterMap fun (other, back) =>
      if names.contains other && back.contains name then some other else none
  groups.foldl (fun found group => if found.contains group then found else found ++ [group]) []

/-- The loops that go on from `path`, which ends at `node`, over names in `free`
and back to `start`. -/
def loopsThrough (g : ReferenceGraph) (start : String) (free path : List String)
    (node : String) : List Loop :=
  (g.targets node).flatMap fun next =>
    if next = start then
      [path ++ [next]]
    else if _h : next ∈ free then
      g.loopsThrough start (free.erase next) (path ++ [next]) next
    else
      []
termination_by free.length
decreasing_by
  have := List.length_erase_of_mem _h
  have := List.length_pos_of_mem _h
  omega

/-- The loops inside of a component: those from its first node, then those from
each later node over the nodes after it. -/
def loopsWithin (g : ReferenceGraph) : List String → List Loop
  | [] => []
  | start :: later =>
    g.loopsThrough start later [start] start ++ g.loopsWithin later

def loops (g : ReferenceGraph) : List Loop :=
  g.components.flatMap g.loopsWithin

end ReferenceGraph

def ReferenceMap.loops (m : ReferenceMap) : List Loop :=
  (ReferenceGraph.ofReferences m).loops

end ApiReview
