import ClusterEvidence.FileSystem.Basic
import ClusterEvidence.Outcome
import ClusterEvidence.Traverse

/-!
# Saving results

Every result is written to a file of its own below one directory; its key says where. The last name
of the key is the file's, and the segments before the last slash are those of its directory. A key
that leads up, that has no last name or that names no directory is refused.

All keys are checked before anything is written. Warnings go to one file, a line each, and only when
there are any. Only the owner can read what is written.
-/

namespace ClusterEvidence.Save

/-- The mode of the directories that are made. -/
def directoryMode : Nat := 0o700

/-- The mode of the files that are made. -/
def fileMode : Nat := 0o600

/-! ## Where a result goes -/

/-- Where a file goes: its directory and its name there. -/
structure Destination where
  directory : String
  file : String
  deriving DecidableEq, Repr

/-- The path of a destination. -/
def Destination.path (destination : Destination) : String :=
  Path.join destination.directory destination.file

/-- The segments of a key before its last slash. -/
def directorySegments (key : String) : List String :=
  (Path.pieces key).dropLast.filter fun piece => piece != "" && piece != "."

/-- The last name of a key, which names the file. -/
def fileName? (key : String) : Option String :=
  match (Path.names key).getLast? with
  | some "." => none
  | name => name

/-- Whether a key names a directory: the root is one, the working directory is not. -/
def namesDirectory (key : String) : Bool :=
  Path.isAbsolute key || !(directorySegments key).isEmpty

/-- Where the result of a key goes below a directory. -/
def destination (root key : String) : Except Error Destination :=
  if (Path.pieces key).contains ".." then .error (.badDumpPath key)
  else
    match fileName? key with
    | none => .error (.badDumpPath key)
    | some file =>
        if namesDirectory key then
          .ok ⟨Path.join root (String.intercalate "/" (directorySegments key)), file⟩
        else .error (.badDumpPath key)

/-- Where each result goes, unless one of the keys is refused. -/
def destinations (root : String) (results : Keyed Bytes) :
    Except Error (List (Destination × Bytes)) :=
  mapAll (fun (key, body) => (destination root key).map (·, body)) results.entries

/-! ## Writing -/

/-- Writes a file after making its directory. -/
def writeBelow (directory path : String) (contents : Bytes) :
    StateM FileSystem (Except FileFault Unit) := do
  match ← FileSystem.makeDirectories directoryMode directory with
  | .ok () => FileSystem.attempt (FileSystem.writeFile fileMode path contents)
  | .error fault => return .error fault

/-- Writes files until one cannot be written. -/
def writeAll : List (Destination × Bytes) → StateM FileSystem (Except FileFault Unit)
  | [] => pure (.ok ())
  | (destination, body) :: others => do
      match ← writeBelow destination.directory destination.path body with
      | .ok () => writeAll others
      | .error fault => return .error fault

/-- Saves results below a directory, in the order of their keys. -/
def results (root : String) (results : Keyed Bytes) : StateM FileSystem (Except Error Unit) := do
  match destinations root results with
  | .error e => return .error e
  | .ok files => return (← writeAll files).mapError .file

/-- Saves warnings to a file, and says whether it wrote it. -/
def warnings (path : String) (warnings : List String) :
    StateM FileSystem (Except Error Bool) := do
  if warnings.isEmpty then return .ok false
  else
    let contents := Text.encodeString (String.intercalate "\n" warnings)
    let directory := (Path.parents path).headD ""
    return ((← writeBelow directory path contents).map fun () => true).mapError .file

/-- Saves the results and then the warnings of an outcome. -/
def outcome (root warningsFile : String) (outcome : Outcome) :
    StateM FileSystem (Except Error Unit) := do
  match ← results root outcome.results with
  | .error e => return .error e
  | .ok () => return (← warnings warningsFile outcome.warnings).map fun _ => ()

end ClusterEvidence.Save
