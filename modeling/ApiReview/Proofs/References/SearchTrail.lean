import ApiReview.Proofs.Reading.Yields
import ApiReview.Proofs.References.Loops
import Mathlib.Data.Finset.Dedup

/-!
# The search for loops, step by step

The loops of a component are found by a search that keeps the walk it has gone and,
for quick lookups, the set of the names on it.  It tries the targets of the last name
one after the other: at the start it notes a loop, onto a later name of the component
that is not on the walk it steps, calls itself, and steps back.

No argument of the call gets smaller, so the search is given a depth of calls, and
looks up ranks that may be missing.  Each call finds a simple walk with the set of its
names, leaves both as it found them, and a depth as large as the component is enough:
the loops found are those of the component.
-/

namespace ApiReview

/-- Why a search stops before its end. -/
inductive SearchFault where
  /-- There are more calls within each other than the depth allows. -/
  | tooDeep
  | unranked (name : String)
deriving DecidableEq, Repr

/-- The state of a search: the walk, the names on it and the loops found so far. -/
structure Trail where
  path : List String
  onPath : Finset String
  loops : List Loop
deriving DecidableEq

namespace Trail

def start (name : String) (loops : List Loop) : Trail where
  path := [name]
  onPath := {name}
  loops := loops

def push (t : Trail) (name : String) : Trail :=
  { t with path := t.path ++ [name], onPath := insert name t.onPath }

def pop (t : Trail) (name : String) : Trail :=
  { t with path := t.path.dropLast, onPath := t.onPath.erase name }

def note (t : Trail) (found : List Loop) : Trail :=
  { t with loops := t.loops ++ found }

variable {t : Trail} {name : String} {found more : List Loop}

theorem note_nil : t.note [] = t := by
  simp [note]

theorem note_note : (t.note found).note more = t.note (found ++ more) := by
  simp [note]

/-- Stepping back undoes a step onto a name that was not on the walk. -/
theorem pop_note_push (fresh : name ∉ t.onPath) :
    ((t.push name).note found).pop name = t.note found := by
  simp [push, note, pop, Finset.erase_insert fresh]

end Trail

/-- A search for the loops from one name of a component. -/
structure LoopSearch where
  graph : ReferenceGraph
  /-- The names of the component. -/
  members : List String
  start : String

namespace LoopSearch

def rank (search : LoopSearch) (name : String) : Except SearchFault Nat :=
  if name ∈ search.graph.nodes then .ok (search.graph.nodes.idxOf name)
  else .error (.unranked name)

def stepsOnto (search : LoopSearch) (t : Trail) (next : String) : Except SearchFault Bool :=
  if next ∈ search.members then do
    let nextRank ← search.rank next
    let startRank ← search.rank search.start
    return decide (startRank < nextRank) && decide (next ∉ t.onPath)
  else
    return false

/-- Try one target of the last name on the walk; `inner` is the call further on. -/
def visit (search : LoopSearch) (inner : String → Trail → Except SearchFault Trail) (t : Trail)
    (next : String) : Except SearchFault Trail :=
  if next = search.start then
    return t.note [t.path ++ [next]]
  else do
    if ← search.stepsOnto t next then
      let returned ← inner next (t.push next)
      return returned.pop next
    else
      return t

/-- Go on from the last name on the walk, with at most so many calls within each other. -/
def extend (search : LoopSearch) : Nat → String → Trail → Except SearchFault Trail
  | 0, _, _ => .error .tooDeep
  | depth + 1, node, t =>
    (search.graph.targets node).foldlM (search.visit (search.extend depth)) t

/-- Search from the start, with a depth as large as the component; further loops are noted
behind those found before. -/
def run (search : LoopSearch) (found : List Loop) : Except SearchFault (List Loop) := do
  let returned ← search.extend search.members.length search.start (.start search.start found)
  return returned.loops

/-- With some depth left the search calls itself on a name and a trail: first on the start,
then on each name it steps onto, after it has tried the targets before that one. -/
inductive Called (search : LoopSearch) (limit : Nat) (found : List Loop) :
    Nat → String → Trail → Prop
  | first : search.Called limit found limit search.start (.start search.start found)
  | inner {depth : Nat} {node next : String} {t before : Trail} {earlier later : List String}
      (outer : search.Called limit found (depth + 1) node t)
      (targets : search.graph.targets node = earlier ++ next :: later)
      (tried : earlier.foldlM (search.visit (search.extend depth)) t = .ok before)
      (leaves : next ≠ search.start) (steps : search.stepsOnto before next = .ok true) :
      search.Called limit found depth next (before.push next)

/-- A trail is a simple walk inside of the component from the start to a name, over names
ranked behind the start, and knows the names on it. -/
structure Fits (search : LoopSearch) (node : String) (t : Trail) : Prop where
  begins : t.path.head? = some search.start
  ends : t.path.getLast? = some node
  simple : t.path.Nodup
  walk : t.path.IsChain search.graph.Edge
  within : t.path ⊆ search.members
  names : t.onPath = t.path.toFinset
  behind : ∀ name ∈ t.path.tail, ∃ startRank nameRank, search.rank search.start = .ok startRank ∧
    search.rank name = .ok nameRank ∧ startRank < nameRank

/-- Is a name ranked behind the start and not on the walk? -/
def isAhead (search : LoopSearch) (t : Trail) (name : String) : Bool :=
  decide (search.graph.nodes.idxOf search.start < search.graph.nodes.idxOf name ∧
    name ∉ t.onPath)

def free (search : LoopSearch) (t : Trail) : List String :=
  search.members.filter (search.isAhead t)

/-- The search starts at a name of a component of the graph. -/
structure Proper (search : LoopSearch) : Prop where
  sublist : search.members.Sublist search.graph.nodes
  distinct : search.graph.nodes.Nodup
  started : search.start ∈ search.members

variable {search : LoopSearch} {limit depth : Nat} {found : List Loop} {node next name : String}
  {t t' : Trail} {nexts : List String}

section Steps

theorem rank_of_mem (proper : search.Proper) (member : name ∈ search.members) :
    search.rank name = .ok (search.graph.nodes.idxOf name) :=
  if_pos (proper.sublist.mem member)

theorem Proper.nodup_members (proper : search.Proper) : search.members.Nodup :=
  proper.distinct.sublist proper.sublist

theorem mem_free : name ∈ search.free t ↔ name ∈ search.members ∧
    search.graph.nodes.idxOf search.start < search.graph.nodes.idxOf name ∧ name ∉ t.onPath := by
  simp [free, isAhead]

/-- No rank is missing, so it is known where a step leads on. -/
theorem stepsOnto_eq (proper : search.Proper) :
    search.stepsOnto t next = .ok (decide (next ∈ search.free t)) := by
  unfold stepsOnto
  split_ifs with member
  · rw [rank_of_mem proper member, rank_of_mem proper proper.started]
    simp [bind, Except.bind, pure, Except.pure, mem_free, member]
  · simp [pure, Except.pure, mem_free, member]

theorem stepsOnto_eq_true_iff (proper : search.Proper) :
    search.stepsOnto t next = .ok true ↔ next ∈ search.free t := by
  rw [stepsOnto_eq proper, Except.ok.injEq, decide_eq_true_eq]

theorem fresh_of_stepsOnto (steps : search.stepsOnto t next = .ok true) : next ∉ t.onPath := by
  unfold stepsOnto at steps
  split_ifs at steps
  · obtain ⟨nextRank, -, steps⟩ := Except.bind_eq_ok steps
    obtain ⟨startRank, -, steps⟩ := Except.bind_eq_ok steps
    have both := Except.ok.inj steps
    simp only [Bool.and_eq_true, decide_eq_true_eq] at both
    exact both.2
  · cases Except.ok.inj steps

end Steps

section Returning

theorem exists_note_of_visit {inner : String → Trail → Except SearchFault Trail}
    (returns : ∀ next t t', inner next t = .ok t' → ∃ found, t' = t.note found)
    (visited : search.visit inner t next = .ok t') : ∃ found, t' = t.note found := by
  unfold visit at visited
  split_ifs at visited with closes
  · exact ⟨_, (Except.ok.inj visited).symm⟩
  · obtain ⟨onward, steps, visited⟩ := Except.bind_eq_ok visited
    cases onward with
    | false => exact ⟨[], by rw [Trail.note_nil]; exact (Except.ok.inj visited).symm⟩
    | true =>
        obtain ⟨returned, called, visited⟩ := Except.bind_eq_ok visited
        obtain ⟨found, rfl⟩ := returns _ _ _ called
        refine ⟨found, ?_⟩
        rw [← Trail.pop_note_push (fresh_of_stepsOnto steps)]
        exact (Except.ok.inj visited).symm

theorem exists_note_of_foldlM {inner : String → Trail → Except SearchFault Trail}
    (returns : ∀ next t t', inner next t = .ok t' → ∃ found, t' = t.note found)
    (tried : nexts.foldlM (search.visit inner) t = .ok t') : ∃ found, t' = t.note found := by
  induction nexts generalizing t with
  | nil => exact ⟨[], by rw [Trail.note_nil]; exact (Except.ok.inj tried).symm⟩
  | cons next rest ih =>
      rw [List.foldlM_cons] at tried
      obtain ⟨visited, first, tried⟩ := Except.bind_eq_ok tried
      obtain ⟨found, rfl⟩ := exists_note_of_visit returns first
      obtain ⟨more, rfl⟩ := ih tried
      exact ⟨found ++ more, Trail.note_note⟩

/-- A call that returns leaves the walk and the names on it as it found them. -/
theorem exists_note_of_extend (returned : search.extend depth node t = .ok t') :
    ∃ found, t' = t.note found := by
  induction depth generalizing node t t' with
  | zero => cases returned
  | succ depth ih => exact exists_note_of_foldlM (fun _ _ _ => ih) returned

end Returning

section Calls

theorem Fits.start (proper : search.Proper) :
    search.Fits search.start (.start search.start found) where
  begins := rfl
  ends := rfl
  simple := List.nodup_singleton _
  walk := List.isChain_singleton _
  within := by simpa [Trail.start] using proper.started
  names := by simp [Trail.start]
  behind := by simp [Trail.start]

theorem Fits.note (fits : search.Fits node t) : search.Fits node (t.note found) :=
  ⟨fits.begins, fits.ends, fits.simple, fits.walk, fits.within, fits.names, fits.behind⟩

/-- A step onto a target keeps the walk simple, inside of the component and behind the
start. -/
theorem Fits.push (proper : search.Proper) (fits : search.Fits node t)
    (edge : search.graph.Edge node next) (steps : search.stepsOnto t next = .ok true) :
    search.Fits next (t.push next) := by
  obtain ⟨member, later, fresh⟩ := mem_free.mp ((stepsOnto_eq_true_iff proper).mp steps)
  have unused : next ∉ t.path := by
    rwa [fits.names, List.mem_toFinset] at fresh
  have filled : t.path ≠ [] := by
    intro empty
    have begins := fits.begins
    rw [empty] at begins
    cases begins
  constructor
  · rw [Trail.push, List.head?_append_of_ne_nil _ filled]
    exact fits.begins
  · exact List.getLast?_concat
  · exact List.nodup_append.mpr ⟨fits.simple, List.nodup_singleton _, by
      rintro name onPath other isNext rfl
      exact unused (List.mem_singleton.mp isNext ▸ onPath)⟩
  · refine List.isChain_append.mpr ⟨fits.walk, List.isChain_singleton _, ?_⟩
    intro last isLast other isOther
    rw [fits.ends] at isLast
    cases isLast
    cases isOther
    exact edge
  · exact List.append_subset.mpr ⟨fits.within, by simpa using member⟩
  · rw [Trail.push, fits.names, List.toFinset_append]
    ext name
    simp
  · intro name inTail
    rw [Trail.push, List.tail_append_of_ne_nil filled] at inTail
    rcases List.mem_append.mp inTail with earlier | isNext
    · exact fits.behind name earlier
    · rw [List.mem_singleton.mp isNext]
      exact ⟨_, _, rank_of_mem proper proper.started, rank_of_mem proper member, later⟩

theorem Fits.length_le (fits : search.Fits node t) : t.path.length ≤ search.members.length :=
  (List.subperm_of_subset fits.simple fits.within).length_le

/-- Every call finds a trail that fits, one name longer for each call around it. -/
theorem Called.fits (proper : search.Proper) (called : search.Called limit found depth node t) :
    search.Fits node t ∧ depth + t.path.length = limit + 1 := by
  induction called with
  | first => exact ⟨.start proper, rfl⟩
  | @inner depth node next t before earlier later outer targets tried leaves steps ih =>
      obtain ⟨fits, level⟩ := ih
      -- what the targets before left behind differs in the loops found only
      obtain ⟨noted, rfl⟩ := exists_note_of_foldlM (fun _ _ _ => exists_note_of_extend) tried
      have edge : search.graph.Edge node next := by
        rw [ReferenceGraph.Edge, targets]
        simp
      refine ⟨fits.note.push proper edge steps, ?_⟩
      have longer : ((t.note noted).push next).path.length = t.path.length + 1 := by
        simp [Trail.push, Trail.note]
      omega

end Calls

section Results

theorem free_push (proper : search.Proper) :
    search.free (t.push next) = (search.free t).erase next := by
  have distinct : (search.free t).Nodup := proper.nodup_members.filter _
  rw [distinct.erase_eq_filter, free, free, List.filter_filter]
  refine List.filter_congr fun name _ => ?_
  rw [Bool.eq_iff_iff, Bool.and_eq_true, bne_iff_ne]
  simp only [isAhead, decide_eq_true_eq, Trail.push, Finset.mem_insert, not_or]
  tauto

theorem free_start (proper : search.Proper) {before later : List String}
    (split : search.members = before ++ search.start :: later) :
    search.free (.start search.start found) = later := by
  have ordered := (pairwise_idxOf_lt proper.distinct).sublist proper.sublist
  rw [split, List.pairwise_append, List.pairwise_cons] at ordered
  obtain ⟨-, ⟨behind, -⟩, ahead⟩ := ordered
  have noneBefore : before.filter (search.isAhead (.start search.start found)) = [] := by
    refine List.filter_eq_nil_iff.mpr fun name member => ?_
    have lower := ahead name member search.start (by simp)
    simp only [isAhead, decide_eq_true_eq, not_and]
    omega
  have allLater : later.filter (search.isAhead (.start search.start found)) = later := by
    refine List.filter_eq_self.mpr fun name member => ?_
    have higher := behind name member
    have differs : name ≠ search.start := by
      rintro rfl
      exact lt_irrefl _ higher
    simp [isAhead, Trail.start, higher, differs]
  have notStart : search.isAhead (.start search.start found) search.start = false := by
    simp [isAhead]
  rw [free, split, List.filter_append, List.filter_cons, noneBefore, allLater, notStart]
  rfl

theorem length_free_le (proper : search.Proper) (fits : search.Fits node t) :
    (search.free t).length + t.path.length ≤ search.members.length := by
  have apart : (search.free t ++ t.path).Nodup := by
    refine List.nodup_append.mpr ⟨proper.nodup_members.filter _, fits.simple, ?_⟩
    rintro name isFree other onPath rfl
    have unused := (mem_free.mp isFree).2.2
    rw [fits.names, List.mem_toFinset] at unused
    exact unused onPath
  have within : search.free t ++ t.path ⊆ search.members :=
    List.append_subset.mpr ⟨List.filter_subset_self _, fits.within⟩
  simpa using (List.subperm_of_subset apart within).length_le

theorem visit_eq (proper : search.Proper)
    {inner : String → Trail → Except SearchFault Trail}
    (onward : next ∈ search.free t → inner next (t.push next) =
      .ok ((t.push next).note (search.graph.loopsThrough search.start
        ((search.free t).erase next) (t.path ++ [next]) next))) :
    search.visit inner t next =
      .ok (t.note (search.graph.loopsOver search.start (search.free t) t.path next)) := by
  unfold visit ReferenceGraph.loopsOver
  rw [stepsOnto_eq proper]
  split_ifs with closes isFree
  · rfl
  · rw [decide_eq_true isFree, onward isFree]
    change Except.ok _ = _
    rw [Trail.pop_note_push (mem_free.mp isFree).2.2]
  · rw [decide_eq_false isFree, Trail.note_nil]
    rfl

theorem foldlM_visit_eq {inner : String → Trail → Except SearchFault Trail}
    {through : String → List Loop}
    (visited : ∀ next ∈ nexts, ∀ found,
      search.visit inner (t.note found) next = .ok ((t.note found).note (through next))) :
    nexts.foldlM (search.visit inner) t = .ok (t.note (nexts.flatMap through)) := by
  induction nexts generalizing t with
  | nil => exact congrArg Except.ok Trail.note_nil.symm
  | cons next rest ih =>
      obtain ⟨head, tail⟩ := List.forall_mem_cons.mp visited
      have first := head []
      rw [Trail.note_nil] at first
      rw [List.foldlM_cons, first]
      change rest.foldlM (search.visit inner) (t.note (through next)) = _
      rw [ih fun other member found => ?_, Trail.note_note, List.flatMap_cons]
      rw [Trail.note_note]
      exact tail other member (through next ++ found)

/-- With a depth above the number of names onto which it can still step, a call returns with
the loops that go on from the walk. -/
theorem extend_eq (proper : search.Proper) (fits : search.Fits node t)
    (enough : (search.free t).length < depth) :
    search.extend depth node t =
      .ok (t.note (search.graph.loopsThrough search.start (search.free t) t.path node)) := by
  induction depth generalizing node t with
  | zero => cases enough
  | succ depth ih =>
      rw [extend, ReferenceGraph.loopsThrough_eq]
      refine foldlM_visit_eq fun next edge found => visit_eq proper fun isFree => ?_
      have steps : search.stepsOnto (t.note found) next = .ok true :=
        (stepsOnto_eq_true_iff proper).mpr isFree
      have shorter : (search.free ((t.note found).push next)).length < depth := by
        have removed := List.length_erase_of_mem isFree
        have filled := List.length_pos_of_mem isFree
        have bound : (search.free (t.note found)).length < depth + 1 := enough
        rw [free_push proper]
        omega
      rw [ih (fits.note.push proper edge steps) shorter, free_push proper]
      rfl

theorem run_eq (proper : search.Proper) {before later : List String}
    (split : search.members = before ++ search.start :: later) :
    search.run found =
      .ok (found ++ search.graph.loopsThrough search.start later [search.start] search.start) := by
  have behind : search.free (.start search.start found) = later := free_start proper split
  have enough : (search.free (.start search.start found)).length < search.members.length := by
    rw [behind, split, List.length_append, List.length_cons]
    omega
  have returned := extend_eq proper (.start proper) enough
  rw [behind] at returned
  rw [run, returned]
  rfl

end Results

end LoopSearch

namespace ReferenceGraph

variable {g : ReferenceGraph} {component : List String} {found : List Loop} {start : String}

def searchComponent (g : ReferenceGraph) (found : List Loop) (component : List String) :
    Except SearchFault (List Loop) :=
  component.foldlM (fun found start => LoopSearch.run ⟨g, component, start⟩ found) found

def search (g : ReferenceGraph) : Except SearchFault (List Loop) :=
  g.components.foldlM g.searchComponent []

theorem proper_search (wellFormed : g.WellFormed) (listed : component ∈ g.components)
    (member : start ∈ component) : LoopSearch.Proper ⟨g, component, start⟩ where
  sublist := sublist_nodes_of_mem_components wellFormed listed
  distinct := wellFormed.distinct
  started := member

theorem searchComponent_eq (wellFormed : g.WellFormed) (listed : component ∈ g.components) :
    g.searchComponent found component = .ok (found ++ g.loopsWithin component) := by
  -- on the names that are still to be started from, behind those that are done
  have onward : ∀ before later found, component = before ++ later →
      later.foldlM (fun found start => LoopSearch.run ⟨g, component, start⟩ found) found =
        .ok (found ++ g.loopsWithin later) := by
    intro before later found split
    induction later generalizing before found with
    | nil => simp [loopsWithin, pure, Except.pure]
    | cons start later ih =>
        have member : start ∈ component := by simp [split]
        have first : LoopSearch.run ⟨g, component, start⟩ found =
            .ok (found ++ g.loopsThrough start later [start] start) :=
          LoopSearch.run_eq (proper_search wellFormed listed member) split
        rw [List.foldlM_cons, first, loopsWithin, ← List.append_assoc]
        exact ih (before ++ [start]) _ (by simp [split])
  exact onward [] component found rfl

theorem search_eq (wellFormed : g.WellFormed) : g.search = .ok g.loops := by
  have inAll : ∀ components : List (List String), components ⊆ g.components → ∀ found,
      components.foldlM g.searchComponent found =
        .ok (found ++ components.flatMap g.loopsWithin) := by
    intro components
    induction components with
    | nil => simp [pure, Except.pure]
    | cons component rest ih =>
        intro listed found
        obtain ⟨head, tail⟩ := List.cons_subset.mp listed
        rw [List.foldlM_cons, searchComponent_eq wellFormed head, List.flatMap_cons,
          ← List.append_assoc]
        exact ih tail _
  exact inAll g.components (List.Subset.refl _) []

end ReferenceGraph

namespace ReferenceMap

/-- A search from a name of a component of the graph of a map. -/
structure Searches (m : ReferenceMap) (search : LoopSearch) : Prop where
  graph : search.graph = .ofReferences m
  component : search.members ∈ search.graph.components
  started : search.start ∈ search.members

theorem Searches.proper {m : ReferenceMap} {search : LoopSearch} (searches : m.Searches search)
    (wellFormed : m.WellFormed) : search.Proper :=
  ReferenceGraph.proper_search (searches.graph ▸ wellFormed.graph) searches.component
    searches.started

/-- Each call of a search finds a simple walk inside of the component from the start to its
node, together with the set of the names on it, and no rank is missing.  The walk is as long
as the calls are deep, so they are never deeper than the component is large.  What a call
leaves behind differs in the loops found only, and with such a depth each call returns; the
searches end with the loops of the map. -/
theorem search_on_trail (m : ReferenceMap) (wellFormed : m.WellFormed) :
    (∀ search, m.Searches search →
      (∀ name ∈ search.members, ∃ rank, search.rank name = .ok rank) ∧
      ∀ (limit depth : Nat) (found : List Loop) (node : String) (t : Trail),
      search.Called limit found depth node t →
        search.Fits node t ∧
        depth + t.path.length = limit + 1 ∧ t.path.length ≤ search.members.length ∧
        (∀ t', search.extend depth node t = .ok t' → t'.path = t.path ∧ t'.onPath = t.onPath) ∧
        (search.members.length ≤ limit → ∃ t', search.extend depth node t = .ok t')) ∧
    (ReferenceGraph.ofReferences m).search = .ok m.loops := by
  refine ⟨?_, ReferenceGraph.search_eq wellFormed.graph⟩
  intro search searches
  have proper := searches.proper wellFormed
  refine ⟨fun name member => ⟨_, LoopSearch.rank_of_mem proper member⟩, ?_⟩
  intro limit depth found node t called
  obtain ⟨fits, level⟩ := called.fits proper
  have short := fits.length_le
  refine ⟨fits, level, short, ?_, ?_⟩
  · intro t' returned
    obtain ⟨noted, rfl⟩ := LoopSearch.exists_note_of_extend returned
    exact ⟨rfl, rfl⟩
  · intro deep
    have bound := LoopSearch.length_free_le proper fits
    exact ⟨_, LoopSearch.extend_eq proper fits (by omega)⟩

/-- The call on the second name of a component of three names. -/
theorem search_on_trail_overlapping :
    let search : LoopSearch := ⟨.ofReferences overlapping, ["C", "B", "A"], "C"⟩
    let t := (Trail.start "C" []).push "B"
    overlapping.Searches search ∧ search.Called 3 [] 2 "B" t ∧ search.Fits "B" t ∧
      ∃ t', search.extend 2 "B" t = .ok t' := by
  intro search t
  have wellFormed : overlapping.WellFormed := WellFormed.nil.add.add.add.add
  have searches : overlapping.Searches search := ⟨rfl, by decide +kernel, by decide⟩
  have targets : search.graph.targets "C" = [] ++ "B" :: [] := by decide +kernel
  have steps : search.stepsOnto (.start "C" []) "B" = .ok true := by decide +kernel
  have called : search.Called 3 [] 2 "B" t := .inner .first targets rfl (by decide) steps
  obtain ⟨fits, -, -, -, returns⟩ :=
    ((search_on_trail overlapping wellFormed).1 search searches).2 3 2 [] "B" t called
  exact ⟨searches, called, fits, returns (by decide)⟩

end ReferenceMap

end ApiReview
