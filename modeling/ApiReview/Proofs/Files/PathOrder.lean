import ApiReview.Files.Path
import ApiReview.Proofs.Text.Cut
import ApiReview.Report.Documents
import Mathlib.Data.List.Nodup
import Mathlib.Data.Prod.Lex

/-!
# The order of paths

Paths are compared component by component: a root comes before all else, then the dot that
opens a path, the directory around, and names, which are compared as texts.  Slashes have
no part in it, so `a/b` comes before `a-b`, although a slash comes behind a hyphen in a text.
Below one directory the order of paths is that of the names that lead there.
-/

namespace ApiReview

namespace Path

/-- Can an entry of a directory have this name? -/
structure IsName (name : String) : Prop where
  active : isIdle name = false
  downward : name ≠ ".."
  whole : '/' ∉ name.toList

instance (name : String) : Decidable (IsName name) :=
  decidable_of_iff (isIdle name = false ∧ name ≠ ".." ∧ '/' ∉ name.toList)
    ⟨fun ⟨active, downward, whole⟩ => ⟨active, downward, whole⟩,
      fun ⟨active, downward, whole⟩ => ⟨active, downward, whole⟩⟩

inductive Component where
  | root
  | here
  | around
  | name (text : String)
deriving DecidableEq, Repr

/-- What components are compared by: their kind, and names by their text. -/
def Component.key : Component → Nat ×ₗ String
  | .root => toLex (0, "")
  | .here => toLex (1, "")
  | .around => toLex (2, "")
  | .name text => toLex (3, text)

def Component.ofStep (step : String) : Component :=
  if step == ".." then .around else .name step

/-- The component with which a path opens, if it is none of its active steps. -/
def opening (path : String) : List Component :=
  if isAbsolute path then [.root]
  else if (steps path).head? = some "." then [.here]
  else []

def components (path : String) : List Component :=
  opening path ++ (activeSteps path).map Component.ofStep

/-- Does one path come before another one? -/
def Before (p q : String) : Prop :=
  (components p).map Component.key < (components q).map Component.key

variable {directory name : String} {names others : List String}

theorem steps_of_whole (whole : '/' ∉ name.toList) : steps name = [name] :=
  Text.cutAt_of_notMem whole

theorem steps_append_slash (front rest : String) :
    steps (front ++ "/" ++ rest) = steps front ++ steps rest :=
  Text.cutAt_append front '/' rest

theorem exists_steps_eq_cons (path : String) : ∃ first rest, steps path = first :: rest := by
  obtain ⟨first, rest, found⟩ := Text.exists_cutList_eq_cons (· == '/') path.toList
  exact ⟨String.ofList first, rest.map String.ofList, by rw [steps, Text.cutAt, found]; rfl⟩

theorem isAbsolute_append (filled : directory ≠ "") (rest : String) :
    isAbsolute (directory ++ rest) = isAbsolute directory := by
  have chars : directory.toList ≠ [] := by simpa using filled
  rw [isAbsolute, isAbsolute, String.toList_append, List.head?_append_of_ne_nil _ chars]

/-- The path of an entry goes through the steps of the directory, up to an empty one at the
end, and then through its name. -/
theorem steps_within (filled : directory ≠ "") (whole : '/' ∉ name.toList) :
    ∃ shared idle, shared ≠ [] ∧ (∀ step ∈ idle, isIdle step = true) ∧
      steps directory = shared ++ idle ∧ steps (within directory name) = shared ++ [name] ∧
      isAbsolute (within directory name) = isAbsolute directory := by
  have nonempty : ∀ path, steps path ≠ [] := by
    intro path empty
    obtain ⟨first, rest, found⟩ := exists_steps_eq_cons path
    rw [empty] at found
    cases found
  by_cases ends : directory.toList.getLast? = some '/'
  · have joined : within directory name = directory ++ name := by simp [within, ends]
    obtain ⟨front, split⟩ := List.getLast?_eq_some_iff.mp ends
    have closes : directory = String.ofList front ++ "/" ++ "" := by
      apply String.toList_injective
      simpa using split
    refine ⟨steps (String.ofList front), [""], nonempty _, by simp [isIdle], ?_, ?_, ?_⟩
    · rw [closes, steps_append_slash]
      rfl
    · rw [joined, closes, String.append_empty, steps_append_slash, steps_of_whole whole]
    · rw [joined, isAbsolute_append filled]
  · have joined : within directory name = directory ++ "/" ++ name := by
      simp [within, filled, ends]
    refine ⟨steps directory, [], nonempty _, by simp, (List.append_nil _).symm, ?_, ?_⟩
    · rw [joined, steps_append_slash, steps_of_whole whole]
    · rw [joined, String.append_assoc, isAbsolute_append filled]

theorem components_of_isName (isName : IsName name) : components name = [.name name] := by
  have notAbsolute : isAbsolute name = false := by
    have notSlash : name.toList.head? ≠ some '/' := fun slash =>
      isName.whole (List.mem_of_mem_head? slash)
    simpa [isAbsolute] using notSlash
  have notHere : name ≠ "." := by
    rintro rfl
    cases isName.active
  simp [components, opening, activeSteps, steps_of_whole isName.whole, notAbsolute, notHere,
    isName.active, Component.ofStep, isName.downward]

/-- The components of the path of an entry are those of the directory and its name. -/
theorem components_within (isName : IsName name) (directory : String) :
    components (within directory name) = components directory ++ [.name name] := by
  by_cases empty : directory = ""
  · have none : components "" = [] := by decide
    have same : within "" name = name := by simp [within]
    rw [empty, same, none, components_of_isName isName]
    rfl
  · obtain ⟨shared, idle, filled, idles, steps, longer, absolute⟩ :=
      steps_within empty isName.whole
    have dropped : idle.filter (fun step => !isIdle step) = [] :=
      List.filter_eq_nil_iff.mpr fun step member => by simp [idles step member]
    have ofStep : Component.ofStep name = .name name := by
      simp [Component.ofStep, isName.downward]
    simp [components, opening, activeSteps, steps, longer, absolute,
      List.head?_append_of_ne_nil _ filled, dropped, isName.active, ofStep]

theorem components_below (plain : ∀ name ∈ names, IsName name) (directory : String) :
    components (below directory names) = components directory ++ names.map .name := by
  induction names generalizing directory with
  | nil => simp [below]
  | cons name rest ih =>
      obtain ⟨head, tail⟩ := List.forall_mem_cons.mp plain
      rw [below, List.foldl_cons, ← below, ih tail, components_within head, List.map_cons,
        List.append_assoc]
      rfl

/-- Below one directory paths are ordered as the names that lead there. -/
theorem before_below (plain : ∀ name ∈ names, IsName name) (plain' : ∀ name ∈ others, IsName name)
    (before : names < others) (directory : String) :
    Before (below directory names) (below directory others) := by
  rw [Before, components_below plain, components_below plain', List.map_append, List.map_append,
    List.map_map, List.map_map]
  refine List.append_left_lt (List.map_lt ?_ before)
  intro one two lower
  exact Prod.Lex.toLex_lt_toLex.mpr (.inr ⟨rfl, lower⟩)

theorem ne_of_before {p q : String} (before : Before p q) : p ≠ q := by
  rintro rfl
  exact lt_irrefl _ before

end Path

theorem precedes_iff {p q : List String} : precedes p q = true ↔ p = q ∨ p < q := by
  induction p generalizing q with
  | nil => cases q <;> simp [precedes]
  | cons name p ih =>
      cases q with
      | nil => simp [precedes]
      | cons other q =>
          rw [precedes, List.cons_lt_cons_iff, List.cons.injEq]
          split_ifs with same
          · simp [same, ih]
          · simp [same]

/-- A list of different names is sorted into a strictly ascending one. -/
theorem pairwise_mergeSort_precedes {paths : List (List String)} (distinct : paths.Nodup) :
    (paths.mergeSort precedes).Pairwise (· < ·) := by
  have ordered : (paths.mergeSort precedes).Pairwise fun p q => precedes p q = true := by
    refine List.pairwise_mergeSort ?_ ?_ paths
    · intro p q r first second
      rw [precedes_iff] at first second ⊢
      rcases first with rfl | first
      · exact second
      · rcases second with rfl | second
        · exact .inr first
        · exact .inr (first.trans second)
    · intro p q
      rw [Bool.or_eq_true, precedes_iff, precedes_iff]
      rcases lt_trichotomy p q with before | same | behind
      · exact .inl (.inr before)
      · exact .inl (.inl same)
      · exact .inr (.inr behind)
  have differ : (paths.mergeSort precedes).Nodup := List.nodup_mergeSort.mpr distinct
  exact (ordered.and differ).imp fun ⟨before, ne⟩ => (precedes_iff.mp before).resolve_left ne

end ApiReview
