import ClusterEvidence.Cluster.Basic
import ClusterEvidence.Content.Resolution

/-!
# Discovery

A run fetches two fixed resources, those that the configuration adds, the kubelet configuration of
every node for each of its roles, and what the profile needs, in this order.
-/

namespace ClusterEvidence

/-- All that a run fetches, and what it was derived from. -/
structure Discovery where
  resources : List Resource
  values : VariableTable
  selected : List String
  extends? : Option String
  roles : Kubelet.RoleIndex

namespace Discovery

/-- What every run fetches. -/
def fixedUris : List String :=
  ["/version", "/apis/config.openshift.io/v1/clusteroperators/openshift-apiserver"]

/-- Puts together what a run fetches. -/
def assemble (roles : Kubelet.RoleIndex) (resolution : Resolution) (extraUris : List String) :
    Discovery where
  resources :=
    (fixedUris ++ extraUris).map Resource.plain ++ roles.resources ++ resolution.resources
  values := resolution.values
  selected := resolution.selected
  extends? := resolution.extends?
  roles := roles

/-- Finds out what a profile needs on a cluster. -/
def discover {σ : Type} (cluster : Cluster σ) (benchmark : Document) (tailoring : Option Document)
    (profile : String) (extraUris : List String) : StateM σ (Except Error Discovery) := do
  match ← cluster.roleIndex with
  | .error e => return .error e
  | .ok roles =>
      return .ok (assemble roles (Resolution.resolve benchmark tailoring profile) extraUris)

/-- A discovery as a JSON object, its fields in the order of their declaration. -/
def toJson (discovery : Discovery) : Json :=
  .object ([("paths", .array (discovery.resources.map Resource.toJson)),
    ("variables", discovery.values.toJson),
    ("selected", .array (discovery.selected.map .string))] ++
    (discovery.extends?.map fun base => ("extends", Json.string base)).toList ++
    [("roles", discovery.roles.toJson)])

end Discovery

end ClusterEvidence
