import ApiReview.Files.Tree
import ApiReview.Settings.Discovery

/-!
# The documents that paths name

A path that leads to a directory names the documents in and below it, in the
order of their names step by step; any other path names itself, whether
there is a file or not.
-/

namespace ApiReview

/-- Does one path, given by its names, come before another one or equal it?  The
first names that differ decide, by the code points of their characters. -/
def precedes : List String → List String → Bool
  | [], _ => true
  | _ :: _, [] => false
  | name :: p, other :: q => if name = other then precedes p q else decide (name < other)

/-- The documents in and below a directory, in order. -/
def Discovery.documentsBelow (d : Discovery) (directory : String) (entries : Table Node) :
    List String :=
  let accepted := (Node.filesOf entries).filter fun names =>
    d.accepts (Path.below directory names)
  (accepted.mergeSort precedes).map (Path.below directory)

def Discovery.documents (d : Discovery) (fs : FileSystem) (paths : List String) :
    List String :=
  paths.flatMap fun path =>
    match fs.directory? path with
    | some entries => d.documentsBelow path entries
    | none => [path]

end ApiReview
