import ClusterEvidence.Error
import ClusterEvidence.FileSystem.Path
import ClusterEvidence.Text.Bytes

/-!
# File systems

A file system says what lies at which location, in the order of locations, so that a directory comes
right before everything in it. A path is followed name by name from the root or from the working
directory: `.` stays, `..` goes up, and every name but the last has to be a directory's.

The operations either change the file system or say why they cannot. `makeDirectories` consists of
several such steps, and those taken before one fails stay.
-/

namespace ClusterEvidence

/-- Where something lies: the names on the way from the root. -/
abbrev Location := List String

/-- What lies at a location. -/
inductive Entry where
  | directory (mode : Nat)
  | file (mode : Nat) (contents : Bytes)
  deriving DecidableEq, Repr

/-- The contents of a file system, and the directory that relative paths start from. -/
structure FileSystem where
  entries : List (Location × Entry)
  working : Location
  deriving Repr

namespace FileSystem

/-! ## Entries -/

/-- What lies at a location. The root is always a directory. -/
def at? (files : FileSystem) (location : Location) : Option Entry :=
  if location = [] then some (.directory 0o755) else files.entries.lookup location

/-- Entries with one put in its place. -/
def insertEntry (location : Location) (entry : Entry) :
    List (Location × Entry) → List (Location × Entry)
  | [] => [(location, entry)]
  | first :: others =>
      if location = first.1 then (location, entry) :: others
      else if location < first.1 then (location, entry) :: first :: others
      else first :: insertEntry location entry others

/-- The file system with an entry put at a location. -/
def put (files : FileSystem) (location : Location) (entry : Entry) : FileSystem :=
  { files with entries := insertEntry location entry files.entries }

private theorem lookup_insertEntry (location other : Location) (entry : Entry)
    (entries : List (Location × Entry)) :
    (insertEntry location entry entries).lookup other =
      if other = location then some entry else entries.lookup other := by
  have hsame {a : Location} (h : a ≠ location) : (a == location) = false := by simp [h]
  induction entries with
  | nil =>
      rw [insertEntry, List.lookup_cons]
      by_cases h : other = location <;> simp [h, hsame]
  | cons first others ih =>
      obtain ⟨place, old⟩ := first
      rw [insertEntry]
      by_cases hplace : location = place
      · subst hplace
        by_cases h : other = location <;> simp [List.lookup_cons, h, hsame]
      · simp only [hplace, if_false]
        split
        · by_cases h : other = location <;> simp [List.lookup_cons, h, hsame]
        · by_cases h : other = place
          · subst h
            simp [Ne.symm hplace]
          · have hne : (other == place) = false := by simp [h]
            simp [List.lookup_cons, hne, ih]

/-- What lies where after an entry was put somewhere. -/
theorem at?_put (files : FileSystem) {location : Location} (h : location ≠ [])
    (other : Location) (entry : Entry) :
    (files.put location entry).at? other =
      if other = location then some entry else files.at? other := by
  by_cases hroot : other = []
  · subst hroot
    simp [at?, Ne.symm h]
  · simp [at?, put, hroot, lookup_insertEntry]

/-! ## Following a path -/

/-- The greatest number of bytes in a name. -/
def nameLimit : Nat := 255

/-- The least number of bytes that are too many for a path. -/
def pathLimit : Nat := 4096

/-- Follows one name from a location, which has to be a directory. -/
def follow (files : FileSystem) (location : Location) (name : String) :
    Except FileFault Location :=
  match files.at? location with
  | none => .error .noSuchFile
  | some (.file ..) => .error .notDirectory
  | some (.directory _) =>
      if name = "." then .ok location
      else if name = ".." then .ok location.dropLast
      else if nameLimit < Text.byteLength name.toList then .error .nameTooLong
      else .ok (location ++ [name])

/-- Why a text cannot be a path of anything. -/
def textFault? (path : String) : Option FileFault :=
  if path.toList.contains '\x00' then some .nulInName
  else if path = "" then some .noSuchFile
  else if pathLimit ≤ Text.byteLength path.toList then some .nameTooLong
  else none

/-- Follows names from where a path starts. -/
def followAll (files : FileSystem) (path : String) (names : List String) :
    Except FileFault Location :=
  match textFault? path with
  | some fault => .error fault
  | none => names.foldlM files.follow (if Path.isAbsolute path then [] else files.working)

/-- The location of a path, where nothing needs to be yet. -/
def locate (files : FileSystem) (path : String) : Except FileFault Location :=
  files.followAll path (Path.names path)

/-- What a path leads to; a slash at its end asks for a directory. -/
def lookUp (files : FileSystem) (path : String) : Except FileFault Entry := do
  let names := Path.names path
  let location ← files.followAll path (if Path.endsInSlash path then names ++ ["."] else names)
  match files.at? location with
  | some entry => .ok entry
  | none => .error .noSuchFile

/-! ## Operations -/

/-- Whether a path leads to a directory. -/
def isDirectory (files : FileSystem) (path : String) : Bool :=
  match files.lookUp path with
  | .ok (.directory _) => true
  | _ => false

/-- The contents of a file. -/
def readFile (files : FileSystem) (path : String) : Except FileFault Bytes := do
  match ← files.lookUp path with
  | .file _ contents => .ok contents
  | .directory _ => .error .isDirectory

/-- Makes a directory. -/
def makeDirectory (mode : Nat) (path : String) (files : FileSystem) :
    Except FileFault FileSystem := do
  let location ← files.locate path
  match files.at? location with
  | some _ => .error .alreadyExists
  | none => .ok (files.put location (.directory mode))

/-- Gives a file its contents. A new file gets the mode, an old one keeps its own. -/
def writeFile (mode : Nat) (path : String) (contents : Bytes) (files : FileSystem) :
    Except FileFault FileSystem := do
  if Path.endsInSlash path then
    let _ ← files.followAll path ((Path.names path).dropLast ++ ["."])
    .error .isDirectory
  else
    let location ← files.locate path
    match files.at? location with
    | some (.directory _) => .error .isDirectory
    | some (.file mode _) => .ok (files.put location (.file mode contents))
    | none => .ok (files.put location (.file mode contents))

/-- Makes a directory unless it is there. -/
def ensureDirectory (mode : Nat) (path : String) (files : FileSystem) :
    Except FileFault FileSystem :=
  match files.makeDirectory mode path with
  | .ok after => .ok after
  | .error fault => if files.isDirectory path then .ok files else .error fault

/-- An operation as a step that leaves the file system alone when it fails. -/
def attempt (operation : FileSystem → Except FileFault FileSystem) :
    StateM FileSystem (Except FileFault Unit) := fun files =>
  match operation files with
  | .ok after => (.ok (), after)
  | .error fault => (.error fault, files)

/-- Makes the first of some directories, each of which lies in the next. The others are made only
when the first cannot be made without them. -/
def ensureFirst (mode : Nat) : List String → StateM FileSystem (Except FileFault Unit)
  | [] => pure (.ok ())
  | path :: parents => do
      match ← attempt (ensureDirectory mode path) with
      | .error .noSuchFile =>
          match ← ensureFirst mode parents with
          | .ok () => attempt (ensureDirectory mode path)
          | .error fault => return .error fault
      | done => return done

/-- Makes a directory and all that it lies in. The empty path asks for nothing. -/
def makeDirectories (mode : Nat) (path : String) : StateM FileSystem (Except FileFault Unit) :=
  ensureFirst mode (if path = "" then [] else path :: Path.parents path)

/-! ## Listing -/

/-- What lies at a path and below it, directories before what they hold and names in order; nothing
when the path leads nowhere. -/
def listing (files : FileSystem) (path : String) : List (String × Entry) :=
  match files.locate path with
  | .error _ => []
  | .ok location =>
      files.entries.filterMap fun entry =>
        (location.isPrefixOf? entry.1).map fun below =>
          (String.intercalate "/" (path :: below), entry.2)

end FileSystem

end ClusterEvidence
