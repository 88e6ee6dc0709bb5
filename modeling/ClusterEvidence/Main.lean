import ClusterEvidence.CommandLine.Run
import ClusterEvidence.Http.Recorded

/-!
# The program

Reads the files that a command line and its configuration name, carries the command line out, and
writes what it has changed. The answers of the API server are read from the file that the
environment variable `APICOLLECT_ANSWERS` names, a JSON object with the server's `address` and, by
target, the `status` and the `body` of its `responses`. Without that file no server is in reach.
-/

namespace ClusterEvidence.CommandLine

/-- The file system with a file of the disk, if it can be read. -/
def takeFile (files : FileSystem) (path : String) : IO FileSystem := do
  try
    let contents ← IO.FS.readBinFile path
    let (_, files) := FileSystem.makeDirectories 0o755 ((Path.parents path).headD "") files
    let write := FileSystem.writeFile 0o644 path contents.toList
    return (FileSystem.attempt write files).2
  catch _ => return files

/-- The files that a run with a configuration reads. -/
def readBy (config : Config) : List String :=
  [config.content?, config.tailoring?, config.cluster.tokenFile?, config.cluster.caFile?,
    some Http.Client.serviceToken, some Http.Client.serviceCertificates].reduceOption

/-- The files that a command line names, in the file system of the disk. -/
def takeFiles (arguments : List String) (files : FileSystem) : IO FileSystem := do
  match read arguments with
  | .error _ => return files
  | .ok invocation =>
      let files ← (invocation.given.lookup "config").toList.foldlM takeFile files
      match configOf invocation.given files with
      | .error _ => return files
      | .ok config => (readBy config).foldlM takeFile files

/-- A recorded response. -/
def response (value : Json) : Http.Response :=
  let status := match value.member? "status" with
    | some (.number (.integer n)) => n.toNat
    | _ => 200
  ⟨status, Text.encodeString (((value.member? "body").bind Json.asString?).getD "")⟩

/-- The recording in a JSON text. -/
def recordingOf (text : Bytes) : Http.Recording :=
  match Json.read text with
  | .error _ => ⟨"", .empty⟩
  | .ok value =>
      let responses := match value.member? "responses" with
        | some (.object members) => members.map fun (target, value) => (target, response value)
        | _ => []
      ⟨((value.member? "address").bind Json.asString?).getD "", .ofList responses⟩

/-- The recording that the environment names. -/
def findRecording : IO Http.Recording := do
  match ← IO.getEnv "APICOLLECT_ANSWERS" with
  | none => return ⟨"", .empty⟩
  | some path => return recordingOf (← IO.FS.readBinFile path).toList

/-- The access rights of a mode. -/
def rights (mode : Nat) : IO.FileRight :=
  let right (n : Nat) : IO.AccessRight := ⟨n / 4 % 2 = 1, n / 2 % 2 = 1, n % 2 = 1⟩
  ⟨right (mode / 64), right (mode / 8), right mode⟩

/-- Puts an entry on the disk. -/
def putEntry (location : Location) : Entry → IO Unit
  | .directory mode => do
      let path := Path.ofSteps true location
      IO.FS.createDirAll path
      IO.setAccessRights path (rights mode)
  | .file mode contents => do
      let path := Path.ofSteps true location
      IO.FS.writeBinFile path contents.toByteArray
      IO.setAccessRights path (rights mode)

/-- Puts what has changed on the disk. -/
def putChanges (before after : FileSystem) : IO Unit :=
  after.entries.forM fun (location, entry) => do
    if before.at? location ≠ some entry then putEntry location entry

/-- Carries out a command line on the disk. -/
def runOnDisk (arguments : List String) : IO UInt32 := do
  let working := (← IO.currentDir).toString
  let (_, files) := FileSystem.makeDirectories 0o755 working ⟨[], Path.segments working⟩
  let before ← takeFiles arguments files
  let recording ← findRecording
  let environment : Http.Environment :=
    ⟨← IO.getEnv "KUBERNETES_SERVICE_HOST", ← IO.getEnv "KUBERNETES_SERVICE_PORT"⟩
  let world : World (List Http.Request) := ⟨environment, recording.server, recording.pageLimit⟩
  let (report, after, _) := run world arguments (before, [])
  putChanges before after
  IO.print report.stdout
  if report.stderr ≠ "" then IO.eprintln report.stderr
  return UInt32.ofNat report.exit

end ClusterEvidence.CommandLine

/-- The program. -/
def main (arguments : List String) : IO UInt32 :=
  ClusterEvidence.CommandLine.runOnDisk arguments
