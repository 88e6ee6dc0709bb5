import ClusterEvidence.Text.Blank

/-!
# Paths

A path is a text whose pieces stand between slashes. Empty pieces and `.` mean nothing, except that
a relative path may begin with `.`; what is left are the path's steps. A step `..` is kept, because
only the file system knows where it leads.

The text of a path is kept as it was given: the file system tells `a` from `a/`.
-/

namespace ClusterEvidence.Path

/-- Whether a path starts at the root. -/
def isAbsolute (path : String) : Bool := path.toList.head? == some '/'

/-- Whether a path ends in a slash, so that it can only be a directory's. -/
def endsInSlash (path : String) : Bool := path.toList.getLast? == some '/'

/-- What stands between the slashes of a path. -/
def pieces (path : String) : List String := (Text.splitOn '/' path.toList).map String.ofList

/-- The names in a path: its pieces that are not empty. -/
def names (path : String) : List String := (pieces path).filter (· != "")

/-- The names in a path that lead somewhere. -/
def segments (path : String) : List String := (names path).filter (· != ".")

/-- The steps of a path: its segments, after `.` if the path begins with it. -/
def steps (path : String) : List String :=
  if (pieces path).head? = some "." then "." :: segments path else segments path

/-- The path of some steps. -/
def ofSteps (absolute : Bool) (steps : List String) : String :=
  (if absolute then "/" else "") ++ String.intercalate "/" steps

/-- The directories that a path lies in as far as its text says, the nearest first; the working
directory is left out. -/
def parents (path : String) : List String :=
  let steps := steps path
  let parent (count : Nat) := ofSteps (isAbsolute path) (steps.take count)
  ((List.range steps.length).reverse.map parent).filter (· != "")

/-- A path below a directory; an absolute path stands for itself. -/
def join (directory path : String) : String :=
  if isAbsolute path then path
  else if directory = "" || endsInSlash directory then directory ++ path
  else directory ++ "/" ++ path

/-- The last name of a path, unless it is `..`. -/
def fileName? (path : String) : Option String :=
  match (segments path).getLast? with
  | some ".." => none
  | name => name

/-- What follows the last dot of a file's name; a dot in front of the whole name does not count. -/
def extension? (path : String) : Option String :=
  (fileName? path).bind fun name =>
    let tail := name.toList.reverse.takeWhile (· != '.')
    if tail.length + 1 < name.length then some (String.ofList tail.reverse) else none

end ClusterEvidence.Path
