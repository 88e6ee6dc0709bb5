import ClusterEvidence.Collection
import ClusterEvidence.CommandLine.Arguments
import ClusterEvidence.Http.Access

/-!
# Carrying out a command line

The configuration of a run is that of the file, if one is given, with the flags over it. `collect`
saves what the profile needs, and `discover` prints what would be fetched. The exit status tells
success from a failed run and from arguments that were not understood.
-/

namespace ClusterEvidence.CommandLine

variable {σ : Type}

/-! ## Configuration -/

/-- Why a run failed. -/
inductive RunFault where
  /-- The configuration file could not be read. -/
  | configFile (path : String) (error : Error)
  | failed (error : Error)

/-- What a failed run says. -/
def RunFault.summary : RunFault → String
  | configFile path _ => "Failed to load config " ++ path
  | failed error => error.message

/-- A configuration with flags over it. -/
def overlay (given : Given) (config : Config) : Config :=
  let value (name : String) : Option String := given.lookup name
  { config with
    content? := (value "content").or config.content?
    tailoring? := (value "tailoring").or config.tailoring?
    profile := (value "profile").getD config.profile
    resultDirectory := (value "resultdir").getD config.resultDirectory
    warningsFile := (value "warnings-output-file").getD config.warningsFile
    contentTimeout := ((value "content-timeout").bind number?).getD config.contentTimeout
    cluster := {
      server? := (value "api-server").or config.cluster.server?
      tokenFile? := (value "token-file").or config.cluster.tokenFile?
      caFile? := (value "ca-file").or config.cluster.caFile?
      insecure := (value "insecure-skip-tls-verify").isSome || config.cluster.insecure } }

/-- The configuration before the flags. -/
def fileConfig (given : Given) (files : FileSystem) : Except RunFault Config :=
  match given.lookup "config" with
  | none => .ok .default
  | some path => (Config.load files path).mapError (.configFile path)

/-- The configuration of a run, which has to have all that a run needs. -/
def configOf (given : Given) (files : FileSystem) : Except RunFault Config := do
  let config := overlay given (← fileConfig given files)
  match config.fault? with
  | none => .ok config
  | some error => .error (.failed error)

/-! ## Running -/

/-- What a program leaves behind besides files. -/
structure Report where
  exit : Nat
  stdout : String
  /-- The first line on standard error. -/
  stderr : String
  deriving DecidableEq, Repr

namespace Report

/-- The report of a success. -/
def success (stdout : String) : Report := ⟨0, stdout, ""⟩

/-- The report of arguments that were not understood. -/
def misused : Report := ⟨2, "", ""⟩

/-- The report of a failed run. -/
def failure (fault : RunFault) : Report :=
  let text := "Error: " ++ fault.summary
  ⟨1, "", String.ofList (text.toList.takeWhile (· != '\n'))⟩

/-- The report of an error. -/
def ofError (error : Error) : Report := failure (.failed error)

end Report

/-- The name and the version of the program. -/
def versionText : String := "apicollect 0.1.0\n"

/-- What a program finds around it. -/
structure World (σ : Type) where
  environment : Http.Environment
  server : Http.Server σ
  /-- The number of pages that no listing of the server exceeds. -/
  pageLimit : Nat

/-- Carries out a command with a cluster. -/
def runWith (config : Config) (cluster : Cluster σ) :
    Command → StateM (FileSystem × σ) Report
  | .collect => do
      match ← config.run cluster with
      | .error e => return .ofError e
      | .ok _ => return .success ""
  | .discover => fun (files, state) =>
      match config.loadAndDiscover cluster files state with
      | (.error e, state) => (.ofError e, files, state)
      | (.ok discovery, state) =>
          (.success (discovery.toJson.prettyString ++ "\n"), files, state)

/-- Carries out what a command line asks for. -/
def runInvocation (world : World σ) (invocation : Invocation) :
    StateM (FileSystem × σ) Report := do
  let (files, _) ← get
  match configOf invocation.given files with
  | .error fault => return .failure fault
  | .ok config =>
      match Http.Client.connect config.cluster world.environment files with
      | .error fault => return .ofError fault.toError
      | .ok client =>
          runWith config (client.cluster world.server world.pageLimit) invocation.command

/-- Carries out a command line. -/
def run (world : World σ) (arguments : List String) : StateM (FileSystem × σ) Report :=
  match read arguments with
  | .ok invocation => runInvocation world invocation
  | .error .version => pure (.success versionText)
  | .error .help => pure (.success "")
  | .error .usage => pure .misused

end ClusterEvidence.CommandLine
