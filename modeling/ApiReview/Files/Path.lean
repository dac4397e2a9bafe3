import ApiReview.Text.Cut

/-!
# Paths

A path is a text whose steps are separated by slashes.  An empty step and a
single dot lead nowhere, two dots lead to the directory around.  The extension
of a path is what follows the last dot of its last step, unless that dot opens
the step.
-/

namespace ApiReview.Path

/-- The steps of a path, with those that lead nowhere. -/
def steps (path : String) : List String :=
  Text.cutAt '/' path

/-- Does a step lead nowhere? -/
def isIdle (step : String) : Bool :=
  step == "" || step == "."

/-- The steps of a path that lead somewhere. -/
def activeSteps (path : String) : List String :=
  (steps path).filter fun step => !isIdle step

/-- Does a path start at the root of the file system? -/
def isAbsolute (path : String) : Bool :=
  path.toList.head? == some '/'

def within (directory name : String) : String :=
  if directory == "" || directory.toList.getLast? == some '/' then directory ++ name
  else directory ++ "/" ++ name

/-- The path that some names lead to from a directory. -/
def below (directory : String) (names : List String) : String :=
  names.foldl within directory

/-- The last step of a path, unless it leads to the directory around. -/
def fileName? (path : String) : Option String :=
  (activeSteps path).getLast?.filter (· != "..")

/-- The extension in the last step of a path: what follows the last dot, which
must not be the first character. -/
def extension? (path : String) : Option String := do
  let name ← fileName? path
  let backwards := name.toList.reverse
  let behind := backwards.takeWhile (· != '.')
  match backwards.drop behind.length with
  | [] => none
  | [_] => none
  | _ :: _ => some (String.ofList behind.reverse)

/-- A path from the working directory without the steps that lead nowhere. -/
def tidy (path : String) : String :=
  (if isAbsolute path then "/" else "") ++ "/".intercalate (activeSteps path)

/-- The names that steps lead to from some names, given from the last one on. -/
def enter : List String → List String → List String
  | names, [] => names
  | names, step :: rest =>
    if isIdle step then enter names rest
    else if step == ".." then enter names.tail rest
    else enter (step :: names) rest

/-- The names that lead from the root to a path. -/
def namesFromRoot (workingDirectory : List String) (path : String) : List String :=
  (enter (if isAbsolute path then [] else workingDirectory.reverse) (steps path)).reverse

/-- The path with a further extension behind its last step; none if the path
ends in no name. -/
def withExtension? (path extension : String) : Option String :=
  (fileName? path).map fun _ => tidy path ++ "." ++ extension

end ApiReview.Path
