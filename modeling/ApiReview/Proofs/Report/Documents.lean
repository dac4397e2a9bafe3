import ApiReview.CommandLine.Program
import ApiReview.Proofs.Files.Trees

/-!
# The documents of a check

A path that leads to no directory stands for itself.  A directory stands for the files in
and below it that are taken for documents, each of them once, in strictly ascending order of
their paths.  So the order in which a file system lists the entries of its directories has
no say in what is checked and what is reported.
-/

namespace ApiReview

variable {d : Discovery} {fs other : FileSystem} {path : String} {paths : List String}
  {entries others : Table Node}

/-- The documents that a path stands for. -/
inductive Discovery.Lists (d : Discovery) (fs : FileSystem) (path : String) :
    List String → Prop
  | itself (noDirectory : fs.directory? path = none) : d.Lists fs path [path]
  | within {entries : Table Node} {documents : List String}
      (directory : fs.directory? path = some entries)
      (ascending : documents.Pairwise Path.Before) (once : documents.Nodup)
      (exactly : ∀ document, document ∈ documents ↔
        ∃ names, (Node.directory entries).HoldsFile names ∧
          document = Path.below path names ∧ d.accepts document = true) :
      d.Lists fs path documents

namespace Discovery

/-- The ways to the files in and below a directory that are documents. -/
def accepted (d : Discovery) (directory : String) (entries : Table Node) : List (List String) :=
  (Node.filesOf entries).filter fun names => d.accepts (Path.below directory names)

theorem documentsBelow_eq (d : Discovery) (directory : String) (entries : Table Node) :
    d.documentsBelow directory entries =
      ((d.accepted directory entries).mergeSort precedes).map (Path.below directory) :=
  rfl

theorem mem_accepted {names : List String} :
    names ∈ d.accepted path entries ↔
      (Node.directory entries).HoldsFile names ∧ d.accepts (Path.below path names) = true := by
  rw [accepted, List.mem_filter, ← Node.mem_files]
  rfl

theorem ascending_documentsBelow (wellFormed : (Node.directory entries).WellFormed) :
    (d.documentsBelow path entries).Pairwise Path.Before := by
  have distinct : (d.accepted path entries).Nodup := (Node.nodup_files wellFormed).filter _
  have plain : ∀ names ∈ (d.accepted path entries).mergeSort precedes,
      ∀ name ∈ names, Path.IsName name := by
    intro names member
    exact (mem_accepted.mp (List.mem_mergeSort.mp member)).1.plain wellFormed
  rw [documentsBelow_eq, List.pairwise_map]
  refine (pairwise_mergeSort_precedes distinct).imp_of_mem ?_
  intro names others member member' before
  exact Path.before_below (plain names member) (plain others member') before path

theorem mem_documentsBelow {document : String} :
    document ∈ d.documentsBelow path entries ↔
      ∃ names, (Node.directory entries).HoldsFile names ∧
        document = Path.below path names ∧ d.accepts document = true := by
  rw [documentsBelow_eq, List.mem_map]
  constructor
  · rintro ⟨names, member, rfl⟩
    obtain ⟨holds, accepts⟩ := mem_accepted.mp (List.mem_mergeSort.mp member)
    exact ⟨names, holds, rfl, accepts⟩
  · rintro ⟨names, holds, rfl, accepts⟩
    exact ⟨names, List.mem_mergeSort.mpr (mem_accepted.mpr ⟨holds, accepts⟩), rfl⟩

/-- The documents that one path stands for, as the listing of all of them has them. -/
def documentsAt (d : Discovery) (fs : FileSystem) (path : String) : List String :=
  match fs.directory? path with
  | some entries => d.documentsBelow path entries
  | none => [path]

theorem documents_eq (d : Discovery) (fs : FileSystem) (paths : List String) :
    d.documents fs paths = (paths.map (d.documentsAt fs)).flatten :=
  List.flatMap_def

theorem lists_documentsAt (wellFormed : fs.WellFormed) (path : String) :
    d.Lists fs path (d.documentsAt fs path) := by
  unfold documentsAt
  cases found : fs.directory? path with
  | none => exact .itself found
  | some entries =>
      have ascending : (d.documentsBelow path entries).Pairwise Path.Before :=
        ascending_documentsBelow (FileSystem.wellFormed_of_directory? wellFormed found)
      exact .within found ascending (ascending.imp Path.ne_of_before) fun _ => mem_documentsBelow

/-- A sorted listing does not show the order of the entries it was made from. -/
theorem documentsBelow_congr (same : FileSystem.SameEntries entries others) :
    d.documentsBelow path others = d.documentsBelow path entries := by
  have files : (Node.filesOf entries).Perm (Node.filesOf others) := same.reordered.files_perm
  have distinct : (d.accepted path entries).Nodup := (Node.nodup_files same.wellFormed).filter _
  have perm : (d.accepted path others).Perm (d.accepted path entries) := (files.filter _).symm
  rw [documentsBelow_eq, documentsBelow_eq]
  congr 1
  have sorted : ((d.accepted path others).mergeSort precedes).Perm
      ((d.accepted path entries).mergeSort precedes) :=
    (List.mergeSort_perm _ _).trans (perm.trans (List.mergeSort_perm _ _).symm)
  refine sorted.eq_of_pairwise (fun _ _ _ _ before behind => ?_)
    (pairwise_mergeSort_precedes (perm.nodup_iff.mpr distinct))
    (pairwise_mergeSort_precedes distinct)
  exact absurd (before.trans behind) (lt_irrefl _)

theorem documents_congr (reordered : fs.Reordered other) (wellFormed : fs.WellFormed)
    (paths : List String) : d.documents other paths = d.documents fs paths := by
  rw [documents_eq, documents_eq]
  congr 1
  refine List.map_congr_left fun path _ => ?_
  unfold documentsAt
  rcases FileSystem.directory?_same reordered wellFormed path with ⟨one, two⟩ |
    ⟨entries, others, one, two, same⟩
  · rw [one, two]
  · rw [one, two]
    exact documentsBelow_congr same

end Discovery

theorem Report.make_congr (reordered : fs.Reordered other) (wellFormed : fs.WellFormed)
    (s : Settings) (paths : List String) : make s other paths = make s fs paths := by
  rw [make, make, Discovery.documents_congr reordered wellFormed]
  refine List.map_congr_left fun path _ => ?_
  rw [Policy.reviewFile, Policy.reviewFile, FileSystem.readText_eq reordered wellFormed]

/-- A check looks at what its paths stand for, path by path: a path to no directory for
itself, a directory for its documents in strictly ascending order.  Another order of the
entries in the directories changes neither the documents nor what the check reports. -/
theorem Program.check_documents (s : Settings) (fs : FileSystem) (wellFormed : fs.WellFormed)
    (paths : List String) :
    (∃ lists, List.Forall₂ (s.discovery.Lists fs) paths lists ∧
      s.discovery.documents fs paths = lists.flatten) ∧
    ∀ other, fs.Reordered other →
      s.discovery.documents other paths = s.discovery.documents fs paths ∧
      ∀ time, check s other paths time = check s fs paths time := by
  constructor
  · refine ⟨paths.map (s.discovery.documentsAt fs), ?_, s.discovery.documents_eq fs paths⟩
    rw [List.forall₂_map_right_iff]
    exact List.forall₂_same.mpr fun path _ => Discovery.lists_documentsAt wellFormed path
  · intro other reordered
    refine ⟨Discovery.documents_congr reordered wellFormed paths, fun time => ?_⟩
    rw [check, check, Report.make_congr reordered wellFormed]

/-- As texts `a-b.json` would come before `a/z.json`. -/
def FileSystem.storedEntries : Table Node :=
  [("a-b.json", .file (.text "{}")), ("notes.md", .file (.text "")),
    ("a", .directory [("z.json", .file (.text "{}"))])]

/-- A file system with one directory. -/
def FileSystem.stored (entries : Table Node) : FileSystem where
  root := [("api", .directory entries)]

theorem Program.check_documents_stored :
    let fs := FileSystem.stored FileSystem.storedEntries
    let other := FileSystem.stored FileSystem.storedEntries.reverse
    let paths := ["missing", "api", "api/notes.md"]
    let d : Discovery := {}
    fs.WellFormed ∧ fs.Reordered other ∧
      (∃ lists, List.Forall₂ (d.Lists fs) paths lists ∧ d.documents fs paths = lists.flatten) ∧
      d.documents fs paths = ["missing", "api/a/z.json", "api/a-b.json", "api/notes.md"] ∧
      d.documents other paths = d.documents fs paths ∧
      check {} other paths "now" = check {} fs paths "now" := by
  intro fs other paths d
  have inner : (Node.directory [("z.json", .file (.text "{}"))]).WellFormed := by
    refine .directory (by decide) (by decide) fun name node member => ?_
    obtain ⟨rfl, rfl⟩ := Prod.mk.inj (List.mem_singleton.mp member)
    exact .file _
  have below : ∀ entry ∈ FileSystem.storedEntries, entry.2.WellFormed := by
    simp [FileSystem.storedEntries, inner, Node.WellFormed.file]
  have stored : (Node.directory FileSystem.storedEntries).WellFormed :=
    .directory (by decide) (by decide) fun name node member => below (name, node) member
  have wellFormed : fs.WellFormed := by
    refine .directory (by decide) (by decide) fun name node member => ?_
    obtain ⟨rfl, rfl⟩ := Prod.mk.inj (List.mem_singleton.mp member)
    exact stored
  have turned : (Node.directory FileSystem.storedEntries).Reordered
      (.directory FileSystem.storedEntries.reverse) :=
    .directory (.of_perm (List.reverse_perm _).symm fun _ node _ => .refl node)
  have reordered : fs.Reordered other :=
    ⟨.directory (@Table.Reordered.cons _ _ _ _ _ _ [] [] turned .nil), rfl⟩
  have sorted : ([["a", "z.json"], ["a-b.json"]].mergeSort precedes) =
      [["a", "z.json"], ["a-b.json"]] := List.mergeSort_of_pairwise (by decide +kernel)
  have accepted : d.accepted "api" FileSystem.storedEntries.reverse =
      [["a", "z.json"], ["a-b.json"]] := by decide +kernel
  have listed : d.documentsBelow "api" FileSystem.storedEntries.reverse =
      ["api/a/z.json", "api/a-b.json"] := by
    rw [Discovery.documentsBelow_eq, accepted, sorted]
    rfl
  have found : d.documents other paths =
      ["missing", "api/a/z.json", "api/a-b.json", "api/notes.md"] := by
    have all : d.documents other paths = ["missing"] ++
        d.documentsBelow "api" FileSystem.storedEntries.reverse ++ ["api/notes.md"] := rfl
    rw [all, listed]
    rfl
  obtain ⟨lists, same⟩ := Program.check_documents {} fs wellFormed paths
  obtain ⟨documents, report⟩ := same other reordered
  exact ⟨wellFormed, reordered, lists, documents.symm.trans found, documents, report "now"⟩

end ApiReview
