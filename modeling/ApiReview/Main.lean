import ApiReview.CommandLine.Program
import ApiReview.Report.Time
import Std.Time.DateTime.Timestamp

/-!
# The program on a real machine

A run takes a snapshot of the files that it can ask for, and of the environment,
and prints what the program answers on them.  Links inside of directories are
not followed.
-/

namespace ApiReview.Snapshot

def content (entry : IO.FS.DirEntry) : IO Content := do
  try
    return .ofBytes (← IO.FS.readBinFile entry.path)
  catch
    | .permissionDenied .. => return .unreadable "Permission denied (os error 13)"
    | e => return .unreadable (toString e)

/-- The node of an entry in a directory; none if it is neither a file nor a
directory. -/
partial def node? (entry : IO.FS.DirEntry) : IO (Option Node) := do
  try
    match (← entry.path.symlinkMetadata).type with
    | .file => return some (.file (← content entry))
    | .dir => return some (.directory (← entries entry))
    | _ => return none
  catch _ => return none
where
  /-- The entries of a directory. -/
  entries (entry : IO.FS.DirEntry) : IO (List (String × Node)) := do
    let mut found := #[]
    for inner in ← entry.path.readDir do
      if let some node ← node? inner then
        found := found.push (inner.fileName, node)
    return found.toList

/-- The node at a path itself, where links are followed. -/
def nodeAt? (entry : IO.FS.DirEntry) : IO (Option Node) := do
  try
    match (← entry.path.metadata).type with
    | .dir => return some (.directory (← node?.entries entry))
    | _ => return some (.file (← content entry))
  catch _ => return none

/-- All paths at which files of settings are looked for. -/
def settingsPaths (userDirectory asked : Option String) : List String :=
  let places := Settings.fixedPlaces ++ (userDirectory.map Settings.userPlace).toList ++
    asked.toList
  places.flatMap fun path =>
    path :: SettingsFormat.extensions.filterMap (Path.withExtension? path)

def pathsOf (userDirectory : Option String) : Request → List String
  | .help => []
  | .run asked command =>
    settingsPaths userDirectory asked ++
      (match command with
       | .check paths _ _ => paths
       | _ => [])

/-- Is there a file at a path? -/
def isFile (entry : IO.FS.DirEntry) : IO Bool := do
  try
    return (← entry.path.metadata).type matches .file
  catch _ => return false

/-- The path to the file that stands in the way of a path, if any. -/
def obstacle? (here : IO.FS.DirEntry) (path : String) : IO (Option String) := do
  let mut front := if Path.isAbsolute path then "/" else ""
  for step in (Path.steps path).dropLast do
    unless Path.isIdle step do
      front := Path.within front step
    if ← isFile ⟨here.path, front⟩ then
      return some front
  return none

/-- The file system with what stands at some paths. -/
def fileSystem (here : IO.FS.DirEntry) (paths : List String) : IO FileSystem := do
  let workingDirectory := Path.activeSteps (toString here.path)
  let mut root : Table Node := []
  for path in paths do
    for found in path :: (← obstacle? here path).toList do
      if let some node ← nodeAt? ⟨here.path, found⟩ then
        root := Node.put node (Path.namesFromRoot workingDirectory found) root
  return { root, workingDirectory }

/-- The variables of the environment. -/
def environment : IO Environment := do
  try
    let bytes ← IO.FS.readBinFile "/proc/self/environ"
    let text := Text.Utf8.readable bytes.toList
    return (Text.cutAt '\x00' text).filterMap fun entry =>
      let name := entry.toList.takeWhile (· != '=')
      if name.isEmpty then none
      else some (String.ofList name, String.ofList (entry.toList.drop (name.length + 1)))
  catch _ => return []

def userDirectory (environment : Environment) : Option String :=
  match (environment.lookup "XDG_CONFIG_HOME").filter Path.isAbsolute with
  | some directory => some directory
  | none => (environment.lookup "HOME").map fun home => Path.within home ".config"

end ApiReview.Snapshot

open ApiReview in
def main (arguments : List String) : IO UInt32 := do
  let environment ← Snapshot.environment
  let userDirectory := Snapshot.userDirectory environment
  let paths :=
    match Arguments.parse arguments with
    | .ok request => Snapshot.pathsOf userDirectory request
    | .error _ => []
  let files ← Snapshot.fileSystem ⟨← IO.currentDir, "."⟩ paths
  let time := Report.timeText (← Std.Time.Timestamp.now).toNanosecondsSinceUnixEpoch.val.toNat
  let outcome := Program.run { files, environment, userDirectory } arguments time
  IO.print outcome.output
  IO.eprint outcome.errors
  return outcome.exitCode.toUInt32
