import ClusterEvidence.Discovery
import ClusterEvidence.Proofs.Kubelet.Index
import ClusterEvidence.Proofs.Kubelet.Key

/-!
# What is discovered on a cluster

Discovery asks for the configuration of a kubelet once for every role of every node, sorted by role
and then by node. The nodes come from the cluster in any order, a name may occur more than once, and
nodes share roles; none of this shows in what is discovered, because the index of roles is
determined by its pairs.

## Main results

* `assemble_covers` — the resources of a discovery, and that they depend on the set of nodes only.
-/

namespace ClusterEvidence.Discovery

/-- A listed node of this name has the label of the role, which is not empty. -/
def HasRole (nodes : List Node) (role node : String) : Prop :=
  role ≠ "" ∧ ∃ one ∈ nodes, one.name = node ∧
    ∃ value, one.labels.get? ("node-role.kubernetes.io/" ++ role) = some value

/-- The configuration of the kubelet of a node, for one of its roles. -/
def kubeletResource (pair : String × String) : Resource where
  uri := "/api/v1/nodes/" ++ pair.2 ++ "/proxy/configz"
  dumpPath := Kubelet.nodeKey pair.1 pair.2
  filter := Kubelet.RoleIndex.configFilter

/-- What is put together from the nodes of a cluster, a resolution and more URIs. -/
structure Covers (nodes : List Node) (resolution : Resolution) (extraUris : List String) :
    Prop where
  /-- One resource for every pair of a role and a node that has it, between what every run fetches
  with the URIs that were added, and what the profile needs. -/
  resources : ∃ pairs : List (String × String),
    (assemble (.ofNodes nodes) resolution extraUris).resources =
      [.plain "/version",
          .plain "/apis/config.openshift.io/v1/clusteroperators/openshift-apiserver"] ++
        extraUris.map .plain ++ pairs.map kubeletResource ++ resolution.resources ∧
    pairs.Pairwise Text.PairLt ∧
    ∀ role node, (role, node) ∈ pairs ↔ HasRole nodes role node
  /-- Neither the order of the nodes nor how often one is listed matters. -/
  sameNodes : ∀ others : List Node, (∀ one, one ∈ others ↔ one ∈ nodes) →
    assemble (.ofNodes others) resolution extraUris = assemble (.ofNodes nodes) resolution extraUris
  /-- Resources for roles without slashes are stored apart. -/
  apart : ∀ one other : String × String, '/' ∉ one.1.toList → '/' ∉ other.1.toList →
    (kubeletResource one).dumpPath = (kubeletResource other).dumpPath → one = other

/-- The pairs of an index are the roles of the nodes. -/
private theorem mem_pairs_iff_hasRole {nodes : List Node} {role node : String} :
    (role, node) ∈ (Kubelet.RoleIndex.ofNodes nodes).pairs ↔ HasRole nodes role node := by
  rw [Kubelet.RoleIndex.mem_pairs_ofNodes_iff]
  simp only [Kubelet.RoleIndex.mem_nodeRoles_iff]
  constructor
  · rintro ⟨one, hone, ⟨hrole, hlabel⟩, hname⟩
    exact ⟨hrole, one, hone, hname, hlabel⟩
  · rintro ⟨hrole, one, hone, hname, hlabel⟩
    exact ⟨one, hone, ⟨hrole, hlabel⟩, hname⟩

/-- A discovery covers every role of every node once, whatever the order of the nodes. -/
theorem assemble_covers (nodes : List Node) (resolution : Resolution) (extraUris : List String) :
    Covers nodes resolution extraUris := by
  refine
    { resources := ⟨(Kubelet.RoleIndex.ofNodes nodes).pairs, ?_, ?_, ?_⟩
      sameNodes := fun others hsame => ?_
      apart := fun one other hone hother h => ?_ }
  · simp only [assemble, fixedUris, List.map_append]
    rfl
  · exact Kubelet.RoleIndex.pairwise_pairs _
  · intro role node
    exact mem_pairs_iff_hasRole
  · rw [Kubelet.RoleIndex.ofNodes_congr hsame]
  · obtain ⟨hrole, hnode⟩ := Kubelet.nodeKey_injective hone hother h
    exact Prod.ext hrole hnode

end ClusterEvidence.Discovery
