import ApiReview.Files.Path
import ApiReview.Reading.FromUntyped
import ApiReview.Text.Ascii

/-!
# Which files are documents

Inside of a directory a file is taken for a document if its extension is one of
the listed ones, in any case of its ASCII letters, and its path contains none of
the fragments that are to be ignored.  For the fragments a backslash in the path
counts as a slash.
-/

namespace ApiReview

/-- Which files in directories are documents. -/
structure Discovery where
  extensions : List String := ["json", "yaml", "yml"]
  ignorePaths : List String := []
deriving DecidableEq, Repr, Inhabited

namespace Discovery

/-- The path with slashes in place of backslashes. -/
def withSlashes (path : String) : String :=
  String.ofList (path.toList.map fun c => if c == '\\' then '/' else c)

/-- Does the path contain a fragment that is to be ignored? -/
def ignores (d : Discovery) (path : String) : Bool :=
  d.ignorePaths.any fun fragment => Text.contains (withSlashes path) fragment

/-- Is the file at a path a document? -/
def accepts (d : Discovery) (path : String) : Bool :=
  !d.ignores path &&
    match Path.extension? path with
    | some extension => d.extensions.any fun e => Text.eqIgnoringAsciiCase e extension
    | none => false

open ApiReview.Field (defaulted)

/-- The choice of files as settings hold it. -/
def read : FromUntyped Discovery :=
  Format.record "DiscoveryConfig"
    [defaulted "extensions" (Format.list Format.text) fun v d => { d with extensions := v },
     defaulted "ignore_paths" (Format.list Format.text)
       fun v d => { d with ignorePaths := v }]
    {}

/-- The choice of files as settings print it. -/
def toJson (d : Discovery) : Json.Value :=
  .object
    [("extensions", .ofTexts d.extensions), ("ignore_paths", .ofTexts d.ignorePaths)]

end Discovery

end ApiReview
