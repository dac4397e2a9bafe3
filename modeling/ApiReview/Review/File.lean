import ApiReview.Files.Tree
import ApiReview.Review.Review

/-!
# Reviewing a file

A file is reviewed as the text it holds.  That there is no file, or that it
cannot be read, is a finding at its path, which no policy drops.
-/

namespace ApiReview

/-- The finding about a file that cannot be read. -/
def ReadFault.finding (path : String) : ReadFault → Finding
  | .missing => .of .fileNotFound ("File not found: " ++ path) path
  | fault => .of .fileReadError ("Failed to read file: IO error: " ++ fault.message) path

/-- The findings about the file at a path. -/
def Policy.reviewFile (p : Policy) (fs : FileSystem) (path : String) : List Finding :=
  match fs.readText path with
  | .ok text => p.reviewText text
  | .error fault => [fault.finding path]

end ApiReview
