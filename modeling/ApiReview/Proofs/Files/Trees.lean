import ApiReview.Files.Tree
import ApiReview.Proofs.Files.PathOrder
import ApiReview.Proofs.Table

/-!
# Listing and reordering trees of files

The listing of a tree holds the way to each of its files once, as long as no directory has
two entries of one name.  In which order the entries of the directories stand matters to
the order of the listing only: every path leads to the same text, and to a directory with
the same entries.
-/

namespace ApiReview

namespace Node

/-- The names lead into a tree and to a file. -/
inductive HoldsFile : Node → List String → Prop
  | here (content : Content) : HoldsFile (.file content) []
  | inside {entries : Table Node} {name : String} {node : Node} {names : List String}
      (entry : (name, node) ∈ entries) (inner : HoldsFile node names) :
      HoldsFile (.directory entries) (name :: names)

/-- In each directory of a tree the entries have different names that lead to them. -/
inductive WellFormed : Node → Prop
  | file (content : Content) : WellFormed (.file content)
  | directory {entries : Table Node} (names : ∀ name ∈ entries.names, Path.IsName name)
      (distinct : entries.Distinct)
      (inner : ∀ name node, (name, node) ∈ entries → WellFormed node) :
      WellFormed (.directory entries)

/-- A tree with the entries of each directory in another order. -/
inductive Reordered : Node → Node → Prop
  | file (content : Content) : Reordered (.file content) (.file content)
  | directory {entries others : Table Node} (inner : Table.Reordered Reordered entries others) :
      Reordered (.directory entries) (.directory others)

variable {node other : Node} {entries others : Table Node} {names : List String}

/-- What holds of files, and of directories whose nodes it holds of, holds of all nodes. -/
theorem node_induction {motive : Node → Prop} (file : ∀ content, motive (.file content))
    (directory : ∀ entries : Table Node, (∀ name node, (name, node) ∈ entries → motive node) →
      motive (.directory entries)) : ∀ node, motive node
  | .file content => file content
  | .directory entries => directory entries fun _ node _member =>
      node_induction file directory node
termination_by node => sizeOf node
decreasing_by
  have smaller := List.sizeOf_lt_of_mem _member
  simp only [Prod.mk.sizeOf_spec, Node.directory.sizeOf_spec] at smaller ⊢
  omega

theorem filesOf_eq (entries : Table Node) :
    filesOf entries = entries.flatMap fun entry => entry.2.files.map (entry.1 :: ·) := by
  induction entries with
  | nil => rfl
  | cons entry rest ih =>
      obtain ⟨name, node⟩ := entry
      rw [filesOf, ih, List.flatMap_cons]

theorem mem_files : names ∈ node.files ↔ node.HoldsFile names := by
  induction node using node_induction generalizing names with
  | file content =>
      constructor
      · intro member
        rw [List.mem_singleton.mp member]
        exact .here content
      · rintro ⟨⟩
        exact List.mem_singleton.mpr rfl
  | directory entries ih =>
      rw [files, filesOf_eq, List.mem_flatMap]
      constructor
      · rintro ⟨⟨name, node⟩, entry, listed⟩
        obtain ⟨inner, member, rfl⟩ := List.mem_map.mp listed
        exact .inside entry ((ih name node entry).mp member)
      · intro holds
        cases holds with
        | @inside _ name node inner entry holds =>
            exact ⟨(name, node), entry, List.mem_map.mpr ⟨inner, (ih name node entry).mpr holds, rfl⟩⟩

/-- Different entries have different names, so no way is listed twice. -/
theorem nodup_files (wellFormed : node.WellFormed) : node.files.Nodup := by
  induction node using node_induction with
  | file content => exact List.nodup_singleton _
  | directory entries ih =>
      cases wellFormed with
      | directory names distinct inner =>
          rw [files, filesOf_eq, List.nodup_flatMap]
          constructor
          · rintro ⟨name, node⟩ entry
            refine (ih name node entry (inner name node entry)).map ?_
            exact fun _ _ equal => (List.cons.inj equal).2
          · refine (List.pairwise_map.mp distinct).imp ?_
            rintro ⟨name, node⟩ ⟨other, node'⟩ differ way first second
            obtain ⟨rest, -, rfl⟩ := List.mem_map.mp first
            obtain ⟨rest', -, equal⟩ := List.mem_map.mp second
            exact differ (List.cons.inj equal).1.symm

theorem HoldsFile.plain (holds : node.HoldsFile names) (wellFormed : node.WellFormed) :
    ∀ name ∈ names, Path.IsName name := by
  induction holds with
  | here content => exact List.forall_mem_nil _
  | inside entry inner ih =>
      cases wellFormed with
      | directory plain distinct below =>
          refine List.forall_mem_cons.mpr ⟨plain _ (Table.mem_names entry), ?_⟩
          exact ih (below _ _ entry)

theorem Reordered.refl (node : Node) : node.Reordered node := by
  induction node using node_induction with
  | file content => exact .file content
  | directory entries ih => exact .directory (.of_perm (.refl entries) ih)

theorem Reordered.files_perm (reordered : node.Reordered other) :
    node.files.Perm other.files := by
  induction node using node_induction generalizing other with
  | file content =>
      cases reordered
      exact .refl _
  | directory entries ih =>
      cases reordered with
      | directory inner =>
          rw [files, files, filesOf_eq, filesOf_eq]
          exact inner.flatMap_perm fun name a b member pair => (ih name a member pair).map _

end Node

namespace FileSystem

open Node (WellFormed Reordered)

def WellFormed (fs : FileSystem) : Prop :=
  (Node.directory fs.root).WellFormed

/-- A file system whose directories have their entries in another order. -/
structure Reordered (fs other : FileSystem) : Prop where
  root : (Node.directory fs.root).Reordered (.directory other.root)
  workingDirectory : fs.workingDirectory = other.workingDirectory

/-- The entries of a directory where they may stand in another order. -/
structure SameEntries (entries others : Table Node) : Prop where
  wellFormed : (Node.directory entries).WellFormed
  reordered : (Node.directory entries).Reordered (.directory others)

/-- Two look-ups fail alike, or lead to nodes that differ in the order of entries only. -/
inductive SameFind : Except ReadFault Node → Except ReadFault Node → Prop
  | fault (fault : ReadFault) : SameFind (.error fault) (.error fault)
  | file (content : Content) : SameFind (.ok (.file content)) (.ok (.file content))
  | directory {entries others : Table Node} (same : SameEntries entries others) :
      SameFind (.ok (.directory entries)) (.ok (.directory others))

variable {fs other : FileSystem} {entries others : Table Node}
  {trail trail' : List (Table Node)}

theorem Reordered.refl (fs : FileSystem) : fs.Reordered fs :=
  ⟨.refl _, rfl⟩

theorem sameEntries_nil : SameEntries [] [] :=
  ⟨.directory (by simp [Table.names]) List.nodup_nil (by simp), .directory .nil⟩

theorem sameEntries_headD (same : List.Forall₂ SameEntries trail trail') :
    SameEntries (trail.headD []) (trail'.headD []) := by
  cases same with
  | nil => exact sameEntries_nil
  | cons head tail => exact head

/-- What a name leads to in entries that may stand in another order. -/
theorem SameEntries.get? (same : SameEntries entries others) (name : String) :
    (entries.get? name = none ∧ others.get? name = none) ∨
    (∃ content, entries.get? name = some (.file content) ∧
      others.get? name = some (.file content)) ∨
    ∃ inner inner', entries.get? name = some (.directory inner) ∧
      others.get? name = some (.directory inner') ∧ SameEntries inner inner' := by
  obtain ⟨wellFormed, reordered⟩ := same
  cases wellFormed with
  | directory names distinct below =>
      cases reordered with
      | directory inside =>
          have found := inside.get? distinct name
          cases one : entries.get? name with
          | none =>
              rw [one] at found
              cases two : others.get? name with
              | none => exact .inl ⟨rfl, rfl⟩
              | some node =>
                  rw [two] at found
                  cases found
          | some node =>
              rw [one] at found
              cases two : others.get? name with
              | none =>
                  rw [two] at found
                  cases found
              | some node' =>
                  rw [two] at found
                  cases found with
                  | some pair =>
                      have inner := below name node (Table.mem_of_get? one)
                      cases pair with
                      | file content => exact .inr (.inl ⟨content, rfl, rfl⟩)
                      | directory further =>
                          exact .inr (.inr ⟨_, _, rfl, rfl, inner, .directory further⟩)

theorem follow_same (steps : List String) (same : List.Forall₂ SameEntries trail trail') :
    SameFind (follow steps trail) (follow steps trail') := by
  induction steps generalizing trail trail' with
  | nil => exact .directory (sameEntries_headD same)
  | cons step rest ih =>
      have outward : List.Forall₂ SameEntries (if trail.length ≤ 1 then trail else trail.tail)
          (if trail'.length ≤ 1 then trail' else trail'.tail) := by
        rw [same.length_eq]
        split_ifs
        · exact same
        · cases same with
          | nil => exact .nil
          | cons head tail => exact tail
      rw [follow, follow]
      by_cases idle : Path.isIdle step = true
      · rw [if_pos idle, if_pos idle]
        exact ih same
      by_cases around : (step == "..") = true
      · rw [if_neg idle, if_neg idle, if_pos around, if_pos around]
        exact ih outward
      by_cases long : 255 < step.utf8ByteSize
      · rw [if_neg idle, if_neg idle, if_neg around, if_neg around, if_pos long, if_pos long]
        exact .fault _
      rw [if_neg idle, if_neg idle, if_neg around, if_neg around, if_neg long, if_neg long]
      rcases (sameEntries_headD same).get? step with ⟨one, two⟩ | ⟨content, one, two⟩ |
        ⟨inner, inner', one, two, further⟩
      · rw [one, two]
        exact .fault _
      · rw [one, two]
        dsimp only
        split_ifs
        · exact .file content
        · exact .fault _
      · rw [one, two]
        exact ih (.cons further same)

theorem workingTrail_same (reordered : fs.Reordered other) (wellFormed : fs.WellFormed) :
    List.Forall₂ SameEntries fs.workingTrail other.workingTrail := by
  have entered : ∀ names trail trail', List.Forall₂ SameEntries trail trail' →
      List.Forall₂ SameEntries (workingTrail.go names trail) (workingTrail.go names trail') := by
    intro names
    induction names with
    | nil => exact fun _ _ same => same
    | cons name rest ih =>
        intro trail trail' same
        rw [workingTrail.go, workingTrail.go]
        rcases (sameEntries_headD same).get? name with ⟨one, two⟩ | ⟨content, one, two⟩ |
          ⟨inner, inner', one, two, further⟩
        · rw [one, two]
          exact ih _ _ (.cons sameEntries_nil same)
        · rw [one, two]
          exact ih _ _ (.cons sameEntries_nil same)
        · rw [one, two]
          exact ih _ _ (.cons further same)
  rw [workingTrail, workingTrail, reordered.workingDirectory]
  exact entered _ _ _ (.cons ⟨wellFormed, reordered.root⟩ .nil)

/-- A path leads to the same node, whatever the order of entries on the way. -/
theorem find_same (reordered : fs.Reordered other) (wellFormed : fs.WellFormed)
    (path : String) : SameFind (fs.find path) (other.find path) := by
  unfold find
  split_ifs
  · exact .fault _
  · exact .fault _
  · exact .fault _
  · exact follow_same _ (.cons ⟨wellFormed, reordered.root⟩ .nil)
  · exact follow_same _ (workingTrail_same reordered wellFormed)

theorem readText_eq (reordered : fs.Reordered other) (wellFormed : fs.WellFormed)
    (path : String) : other.readText path = fs.readText path := by
  unfold readText
  generalize fs.find path = one, other.find path = two, find_same reordered wellFormed path = same
  cases same <;> rfl

theorem directory?_same (reordered : fs.Reordered other) (wellFormed : fs.WellFormed)
    (path : String) :
    (fs.directory? path = none ∧ other.directory? path = none) ∨
    ∃ entries others, fs.directory? path = some entries ∧ other.directory? path = some others ∧
      SameEntries entries others := by
  have same := find_same reordered wellFormed path
  unfold directory?
  cases found : fs.find path <;> cases found' : other.find path <;>
    rw [found, found'] at same <;> cases same
  · exact .inl ⟨rfl, rfl⟩
  · exact .inl ⟨rfl, rfl⟩
  · next entries others inner => exact .inr ⟨entries, others, rfl, rfl, inner⟩

theorem wellFormed_of_directory? {path : String} (wellFormed : fs.WellFormed)
    (found : fs.directory? path = some entries) : (Node.directory entries).WellFormed := by
  rcases directory?_same (.refl fs) wellFormed path with ⟨none, -⟩ | ⟨_, _, one, -, same⟩
  · rw [found] at none
    cases none
  · rw [found] at one
    cases one
    exact same.wellFormed

end FileSystem

end ApiReview
