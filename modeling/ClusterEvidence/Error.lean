import ClusterEvidence.Filter.Basic
import ClusterEvidence.Xml.Fault
import ClusterEvidence.Yaml.Fault

/-!
# What can go wrong

Errors are causes; their wording is one function. A request to the cluster fails with a
`Cluster.Failure`. A missing object, a denied one and a kind that the cluster does not serve are
tolerated: collecting notes them and goes on. Everything else ends it with an `Error`.
-/

namespace ClusterEvidence

/-! ## Failures of a request -/

/-- Why a request to the cluster failed. -/
inductive Cluster.Failure where
  /-- The object does not exist; the server gives a reason. -/
  | notFound (reason message : String)
  | forbidden (message : String)
  /-- The cluster serves no kind that matches the request. -/
  | noKindMatch (message : String)
  /-- The server answered with another unsuccessful status. -/
  | status (code : Nat) (message : String)
  /-- No answer was received; the URL was asked for, if there is one. -/
  | transport (message : String) (url? : Option String)
  /-- The answer could not be read. -/
  | decode (message : String)
  deriving DecidableEq, Repr

namespace Cluster.Failure

/-- The wording of a failure. -/
def message : Failure → String
  | notFound reason message => message ++ " (reason: " ++ reason ++ ")"
  | forbidden message => "forbidden: " ++ message
  | noKindMatch message => "no matches for kind: " ++ message
  | status code message => "unexpected status " ++ toString code ++ ": " ++ message
  | transport message _ => "transport error: " ++ message
  | decode message => "malformed response: " ++ message

/-- The reason that the server gave or that the kind of failure implies. -/
def reason : Failure → String
  | notFound reason _ => reason
  | forbidden _ => "Forbidden"
  | noKindMatch _ => "NoKindMatch"
  | _ => "Unknown"

/-- Whether the object does not exist. -/
def isNotFound : Failure → Bool
  | notFound _ _ => true
  | _ => false

/-- Whether access was denied. -/
def isForbidden : Failure → Bool
  | forbidden _ => true
  | _ => false

/-- Whether the cluster does not serve the kind. -/
def isNoKindMatch : Failure → Bool
  | noKindMatch _ => true
  | _ => false

/-- Whether collecting notes the failure and goes on. -/
def isTolerated (failure : Failure) : Bool :=
  failure.isNotFound || failure.isForbidden || failure.isNoKindMatch

end Cluster.Failure

/-! ## Failures of the file system -/

/-- Why an operation on files failed. -/
inductive FileFault where
  | noSuchFile
  | alreadyExists
  | notDirectory
  | isDirectory
  | nameTooLong
  /-- A path or file name holds a NUL character. -/
  | nulInName
  /-- A text was read that is not UTF-8. -/
  | notText
  deriving DecidableEq, Repr

/-- The wording of a fault, as the operating system has it. -/
def FileFault.message : FileFault → String
  | noSuchFile => "No such file or directory (os error 2)"
  | alreadyExists => "File exists (os error 17)"
  | notDirectory => "Not a directory (os error 20)"
  | isDirectory => "Is a directory (os error 21)"
  | nameTooLong => "File name too long (os error 36)"
  | nulInName => "file name contained an unexpected NUL byte"
  | notText => "stream did not contain valid UTF-8"

/-! ## Failures of a run -/

/-- Why a configuration of the kubelet could not be compared. -/
inductive ReconcileFault where
  | malformed (fault : Json.Fault)
  | notObject
  deriving DecidableEq, Repr

/-- Why a machine configuration could not be trimmed. -/
inductive IgnitionFault where
  | malformed (fault : Json.Fault)
  | notObject
  /-- The configuration is a value of a kind that is never one. -/
  | unexpected (text : String)
  deriving DecidableEq, Repr

/-- Why a run ended without a result. -/
inductive Error where
  | file (fault : FileFault)
  | json (fault : Json.Fault)
  | yaml (fault : Yaml.Fault)
  | contentTimeout (path : String) (seconds : Nat)
  | contentParse (origin : String) (fault : Xml.Fault)
  | fetch (uri : String) (source : Cluster.Failure)
  | filter (source : String) (fault : Filter.Fault)
  | reconcile (node : String) (fault : ReconcileFault)
  | machineConfig (name : String) (fault : IgnitionFault)
  | badDumpPath (path : String)
  /-- A listing went on past the number of pages that any listing of the cluster can have. -/
  | endlessListing (uri : String)
  | config (text : String)
  | other (text : String)
  deriving DecidableEq, Repr

/-- The wording of a fault. -/
def ReconcileFault.message : ReconcileFault → String
  | malformed fault => fault.message
  | notObject => "kubelet config is not a JSON object"

/-- The wording of a fault. -/
def IgnitionFault.message : IgnitionFault → String
  | malformed fault => fault.message
  | notObject => "Ignition config is not an object"
  | unexpected text => "unexpected Ignition config: " ++ text

namespace Error

/-- The wording of an error. -/
def message : Error → String
  | file fault => "IO error: " ++ fault.message
  | json fault => "JSON error: " ++ fault.message
  | yaml fault => "YAML error: " ++ fault.message
  | contentTimeout path seconds =>
      "Timed out after " ++ toString seconds ++ "s waiting for content file " ++ path
  | contentParse origin fault =>
      "Failed to parse content " ++ origin ++ ": " ++ fault.message
  | fetch uri source => "Cluster request for " ++ uri ++ " failed: " ++ source.message
  | filter source fault => "Couldn't filter with '" ++ source ++ "': " ++ fault.message
  | reconcile node fault =>
      "Couldn't compare kubelet configs for " ++ node ++ ": " ++ fault.message
  | machineConfig name fault => "Cannot parse MachineConfig " ++ name ++ ": " ++ fault.message
  | badDumpPath path => "Bad object path: " ++ path
  | endlessListing uri => "Listing " ++ uri ++ " does not end"
  | config text => "Configuration error: " ++ text
  | other text => text

/-- Whether content never showed up. -/
def isTimeout : Error → Bool
  | contentTimeout _ _ => true
  | _ => false

/-- The error made from a text and what was being done when it arose, innermost first: the outermost
comes first and colons stand between them. -/
def ofChain (root : String) (contexts : List String) : Error :=
  other (String.intercalate ": " ((root :: contexts).reverse))

end Error

end ClusterEvidence
