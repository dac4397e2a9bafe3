import ApiReview.Files.Path
import ApiReview.Table
import ApiReview.Text.Utf8

/-!
# Trees of files

A file system is a tree of directories together with the directory that paths
start from.  The entries of a directory have an order, but nothing that is said
here about a path depends on it; only the list of all files does.
-/

namespace ApiReview

inductive Content where
  | text (s : String)
  /-- Bytes that are no text; `readable` is what can be read of them. -/
  | broken (readable : String)
  /-- A file that cannot be read, and why. -/
  | unreadable (reason : String)
deriving Repr, Inhabited

def Content.ofBytes (bytes : ByteArray) : Content :=
  match String.fromUTF8? bytes with
  | some s => .text s
  | none => .broken (Text.Utf8.readable bytes.toList)

/-- A file or a directory with its entries. -/
inductive Node where
  | file (content : Content)
  | directory (entries : List (String × Node))
deriving Repr, Inhabited

namespace Node

mutual

/-- The paths of the files in and below a node, as the names that lead there. -/
def files : Node → List (List String)
  | .file _ => [[]]
  | .directory entries => filesOf entries

/-- The paths of the files in and below the entries of a directory. -/
def filesOf : List (String × Node) → List (List String)
  | [] => []
  | (name, node) :: rest => node.files.map (name :: ·) ++ filesOf rest

end

/-- Put a node into a tree at a path of names; what is in the way is replaced. -/
def put (node : Node) : List String → Table Node → Table Node
  | [], entries => entries
  | [name], entries => Table.put entries name node
  | name :: next :: rest, entries =>
    let inner :=
      match Table.get? entries name with
      | some (.directory inner) => inner
      | _ => []
    Table.put entries name (.directory (put node (next :: rest) inner))

end Node

/-- Why nothing can be read at a path. -/
inductive ReadFault where
  | missing
  /-- A step leads on from a file. -/
  | notDirectory
  | isDirectory
  | nameTooLong
  | nulInPath
  | notText
  | other (reason : String)
deriving DecidableEq, Repr

def ReadFault.message : ReadFault → String
  | .missing => "No such file or directory (os error 2)"
  | .notDirectory => "Not a directory (os error 20)"
  | .isDirectory => "Is a directory (os error 21)"
  | .nameTooLong => "File name too long (os error 36)"
  | .nulInPath => "file name contained an unexpected NUL byte"
  | .notText => "stream did not contain valid UTF-8"
  | .other reason => reason

/-- All directories and files, and the directory that paths start from. -/
structure FileSystem where
  root : Table Node := []
  /-- The names that lead from the root to the working directory. -/
  workingDirectory : List String := []

namespace FileSystem

/-- Follow some steps.  `trail` holds the entries of the directories around,
the innermost one first; above the outermost one there is none. -/
def follow : List String → List (Table Node) → Except ReadFault Node
  | [], trail => .ok (.directory (trail.headD []))
  | step :: rest, trail =>
    if Path.isIdle step then follow rest trail
    else if step == ".." then
      follow rest (if trail.length ≤ 1 then trail else trail.tail)
    else if 255 < step.utf8ByteSize then .error .nameTooLong
    else
      match (trail.headD []).get? step with
      | none => .error .missing
      | some (.directory entries) => follow rest (entries :: trail)
      | some (.file content) =>
        if rest.isEmpty then .ok (.file content) else .error .notDirectory

/-- The entries of the working directory and of those around it. -/
def workingTrail (fs : FileSystem) : List (Table Node) :=
  go fs.workingDirectory [fs.root]
where
  /-- Enter directories one after the other. -/
  go : List String → List (Table Node) → List (Table Node)
    | [], trail => trail
    | name :: rest, trail =>
      match (trail.headD []).get? name with
      | some (.directory entries) => go rest (entries :: trail)
      | _ => go rest ([] :: trail)

/-- What a path leads to. -/
def find (fs : FileSystem) (path : String) : Except ReadFault Node :=
  if path.toList.contains '\x00' then .error .nulInPath
  else if path.isEmpty then .error .missing
  else if 4096 ≤ path.utf8ByteSize then .error .nameTooLong
  else
    follow (Path.steps path) (if Path.isAbsolute path then [fs.root] else fs.workingTrail)

def isFile (fs : FileSystem) (path : String) : Bool :=
  match fs.find path with
  | .ok (.file _) => true
  | _ => false

/-- The entries of the directory that a path leads to. -/
def directory? (fs : FileSystem) (path : String) : Option (Table Node) :=
  match fs.find path with
  | .ok (.directory entries) => some entries
  | _ => none

/-- The text of the file that a path leads to. -/
def readText (fs : FileSystem) (path : String) : Except ReadFault String :=
  match fs.find path with
  | .ok (.file (.text s)) => .ok s
  | .ok (.file (.broken _)) => .error .notText
  | .ok (.file (.unreadable reason)) => .error (.other reason)
  | .ok (.directory _) => .error .isDirectory
  | .error fault => .error fault

end FileSystem

end ApiReview
