import ClusterEvidence.Config
import ClusterEvidence.Http.Certificate
import ClusterEvidence.Http.Client

/-!
# Access to the API server

A client is made from a configuration. What the configuration leaves out is looked for where a pod
finds it: the address of the server in the environment, the token and the accepted certificates in
the files of its service account.
-/

namespace ClusterEvidence.Http

/-- What a pod's environment says about the server. -/
structure Environment where
  host? : Option String
  port? : Option String
  deriving DecidableEq, Repr

/-- Why a client could not be made. -/
inductive AccessFault where
  /-- Neither the configuration nor the environment names a server. -/
  | noServer
  | token (path : String) (fault : FileFault)
  | certificates (path : String) (fault : FileFault)
  | serviceCertificates (fault : FileFault)
  /-- The accepted certificates cannot be used. -/
  | unusable (fault : Certificate.Fault)
  deriving DecidableEq, Repr

namespace AccessFault

/-- What was being done. -/
def summary : AccessFault → String
  | noServer => "No API server configured and KUBERNETES_SERVICE_HOST is not set"
  | token path _ => "Failed to read token file " ++ path
  | certificates path _ => "Failed to read CA file " ++ path
  | serviceCertificates _ => "Failed to read service account CA"
  | unusable _ => "Failed to create HTTP client"

/-- What went wrong. -/
def cause : AccessFault → String
  | noServer => "environment variable not found"
  | token _ fault | certificates _ fault | serviceCertificates fault => fault.message
  | unusable fault => "builder error: " ++ fault.message ++ ": " ++ fault.message

/-- The fault as the end of a run. -/
def toError (fault : AccessFault) : Error := .ofChain fault.cause [fault.summary]

end AccessFault

namespace Client

/-- Where a pod finds its token. -/
def serviceToken : String := "/var/run/secrets/kubernetes.io/serviceaccount/token"

/-- Where a pod finds the certificates that it accepts. -/
def serviceCertificates : String := "/var/run/secrets/kubernetes.io/serviceaccount/ca.crt"

/-- The URL of the server that a pod's environment names. -/
def serviceUrl (host port : String) : String :=
  let host := if host.toList.contains ':' then "[" ++ host ++ "]" else host
  "https://" ++ host ++ ":" ++ port

/-- The base URL of a configuration. -/
def baseFor (access : ClusterAccess) (environment : Environment) : Except AccessFault String :=
  match access.server?, environment.host? with
  | some server, _ => .ok server
  | none, some host => .ok (serviceUrl host (environment.port?.getD "443"))
  | none, none => .error .noServer

/-- Whether a path leads anywhere. -/
def leadsSomewhere (files : FileSystem) (path : String) : Bool :=
  (files.lookUp path).toOption.isSome

/-- The token in a file, without the white space around it. -/
def readToken (files : FileSystem) (path : String) : Except AccessFault String :=
  match files.readFile path with
  | .error fault => .error (.token path fault)
  | .ok contents =>
      match Text.decodeString? contents with
      | some text => .ok (Text.trimString text)
      | none => .error (.token path .notText)

/-- The token for a configuration. -/
def tokenFor (access : ClusterAccess) (files : FileSystem) :
    Except AccessFault (Option String) :=
  match access.tokenFile? with
  | some path => (readToken files path).map some
  | none =>
      if leadsSomewhere files serviceToken then (readToken files serviceToken).map some
      else .ok none

/-- The accepted certificates for a configuration. -/
def certificatesFor (access : ClusterAccess) (files : FileSystem) :
    Except AccessFault (Option Bytes) :=
  match access.caFile? with
  | some path => ((files.readFile path).mapError (.certificates path)).map some
  | none =>
      if leadsSomewhere files serviceCertificates then
        ((files.readFile serviceCertificates).mapError .serviceCertificates).map some
      else .ok none

/-- A client of a base URL with a token and accepted certificates. -/
def make (base : String) (token : Option String) (certificates : Option Bytes) :
    Except AccessFault Client :=
  match certificates.bind Certificate.fault? with
  | none => .ok (ofBase base token)
  | some fault => .error (.unusable fault)

/-- The client for a configuration. -/
def connect (access : ClusterAccess) (environment : Environment) (files : FileSystem) :
    Except AccessFault Client := do
  let base ← baseFor access environment
  let token ← tokenFor access files
  let certificates ← certificatesFor access files
  make base token certificates

end Client

end ClusterEvidence.Http
