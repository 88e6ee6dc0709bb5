import ClusterEvidence.FileSystem.Basic
import ClusterEvidence.Json.Record
import ClusterEvidence.Text.Lower
import ClusterEvidence.Yaml.Record

/-!
# Configuration

What a run reads, what it writes and how it reaches the cluster. A configuration file is YAML or
JSON, as its extension says; every field has a default. What the defaults leave open is only looked
at by `fault?`, because a field may still be given elsewhere.
-/

namespace ClusterEvidence

/-- How the API server is reached. What is not given is taken from where a pod finds it. -/
structure ClusterAccess where
  /-- The URL of the server. -/
  server? : Option String
  /-- The file that holds the bearer token. -/
  tokenFile? : Option String
  /-- The file that holds the accepted certificates. -/
  caFile? : Option String
  /-- Whether any certificate is accepted. -/
  insecure : Bool
  deriving DecidableEq, Repr

/-- The configuration of a run. -/
structure Config where
  /-- The file of the benchmark. -/
  content? : Option String
  /-- The file of the tailoring. -/
  tailoring? : Option String
  /-- The profile; one of the tailoring if there is one. -/
  profile : String
  /-- The directory that results are saved in. -/
  resultDirectory : String
  /-- The file that warnings are saved to. -/
  warningsFile : String
  /-- How many seconds to wait for content. -/
  contentTimeout : Nat
  /-- More URIs to fetch. -/
  extraUris : List String
  cluster : ClusterAccess
  deriving DecidableEq, Repr

/-- The access that a pod has by itself. -/
def ClusterAccess.default : ClusterAccess := ⟨none, none, none, false⟩

namespace Config

/-- The configuration that no file changes. -/
def default : Config where
  content? := none
  tailoring? := none
  profile := ""
  resultDirectory := "/tmp/apicollect/results"
  warningsFile := "/tmp/apicollect/warnings.out"
  contentTimeout := 3600
  extraUris := []
  cluster := .default

/-! ## Reading -/

/-- The fields of `ClusterAccess`, in the order of an array. -/
def clusterFields : List String :=
  ["api_server", "token_file", "ca_file", "insecure_skip_tls_verify"]

/-- The fields of a configuration, in the order of an array. -/
def fields : List String :=
  ["content", "tailoring", "profile", "result_dir", "warnings_file", "content_timeout_seconds",
    "extra_paths", "cluster"]

section Json

open Json.Decoder

/-- Cluster access as a JSON record. -/
def clusterOfJson : Json.Decoder ClusterAccess :=
  record clusterFields fun fields => do
    let server? ← fields.getD "api_server" (nullable string) none
    let tokenFile? ← fields.getD "token_file" (nullable string) none
    let caFile? ← fields.getD "ca_file" (nullable string) none
    let insecure ← fields.getD "insecure_skip_tls_verify" bool false
    .ok { server?, tokenFile?, caFile?, insecure }

/-- A configuration as a JSON record. -/
def ofJson : Json.Decoder Config :=
  record fields fun fields => do
    let content? ← fields.getD "content" (nullable string) none
    let tailoring? ← fields.getD "tailoring" (nullable string) none
    let profile ← fields.getD "profile" string default.profile
    let resultDirectory ← fields.getD "result_dir" string default.resultDirectory
    let warningsFile ← fields.getD "warnings_file" string default.warningsFile
    let contentTimeout ← fields.getD "content_timeout_seconds" natural default.contentTimeout
    let extraUris ← fields.getD "extra_paths" (list string) []
    let cluster ← fields.getD "cluster" clusterOfJson .default
    .ok { content?, tailoring?, profile, resultDirectory, warningsFile, contentTimeout, extraUris,
          cluster }

end Json

section Yaml

open Yaml Yaml.Decoder

/-- Cluster access as a YAML record. -/
def clusterOfYaml : Yaml.Decoder ClusterAccess :=
  record clusterFields fun fields => do
    let server? ← fieldD fields "api_server" (nullable string) none
    let tokenFile? ← fieldD fields "token_file" (nullable string) none
    let caFile? ← fieldD fields "ca_file" (nullable string) none
    let insecure ← fieldD fields "insecure_skip_tls_verify" bool false
    return { server?, tokenFile?, caFile?, insecure }

/-- A configuration as a YAML record. -/
def ofYaml : Yaml.Decoder Config :=
  record fields fun fields => do
    let content? ← fieldD fields "content" (nullable string) none
    let tailoring? ← fieldD fields "tailoring" (nullable string) none
    let profile ← fieldD fields "profile" string default.profile
    let resultDirectory ← fieldD fields "result_dir" string default.resultDirectory
    let warningsFile ← fieldD fields "warnings_file" string default.warningsFile
    let contentTimeout ← fieldD fields "content_timeout_seconds" natural default.contentTimeout
    let extraUris ← fieldD fields "extra_paths" (list string) []
    let cluster ← fieldD fields "cluster" clusterOfYaml .default
    return { content?, tailoring?, profile, resultDirectory, warningsFile, contentTimeout,
             extraUris, cluster }

end Yaml

/-- Reads a configuration from the contents of a file, which have to be UTF-8 in every format. -/
def parse (path : String) (contents : Bytes) : Except Error Config :=
  match Text.decode? contents with
  | none => .error (.file .notText)
  | some text =>
      let extension := Text.lowerString ((Path.extension? path).getD "")
      if extension = "yaml" || extension = "yml" then (ofYaml.readText text).mapError .yaml
      else if extension = "json" then (ofJson.read contents).mapError .json
      else
        .error (.config ("unsupported config format '" ++ extension ++ "' for " ++ path))

/-- Reads a configuration file. -/
def load (files : FileSystem) (path : String) : Except Error Config :=
  match files.readFile path with
  | .error fault => .error (.file fault)
  | .ok contents => parse path contents

/-! ## What has to be given -/

/-- What a run misses in a configuration. -/
def fault? (config : Config) : Option Error :=
  if config.content?.isNone then some (.config "no content file given")
  else if config.profile = "" then some (.config "no profile given")
  else if config.contentTimeout = 0 then
    some (.config "content timeout must be at least one second")
  else none

end Config

end ClusterEvidence
