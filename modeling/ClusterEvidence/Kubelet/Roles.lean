import ClusterEvidence.Kubelet.Key
import ClusterEvidence.Keyed
import ClusterEvidence.Resource

/-!
# Nodes and their roles

A label whose name begins with `node-role.kubernetes.io/` gives a node the role that follows. The
index of a cluster lists the nodes of every role; both are in the order of their names, whatever
the order in which the cluster lists its nodes. From it come the resources that hold the kubelet
configuration of every node, one for each of its roles.
-/

namespace ClusterEvidence

/-- A node's name and labels. -/
structure Node where
  name : String
  labels : Keyed String

namespace Kubelet

/-! ## Roles -/

/-- How the name of a label begins that gives a role. -/
def roleLabelStart : List Char := "node-role.kubernetes.io/".toList

/-- The role that a label gives, if it gives one. -/
def roleOfLabel? (label : String) : Option String :=
  match roleLabelStart.isPrefixOf? label.toList with
  | some (c :: role) => some (String.ofList (c :: role))
  | _ => none

/-- The roles of a node. -/
def nodeRoles (node : Node) : List String := node.labels.keys.filterMap roleOfLabel?

/-! ## The index -/

/-- The names of the nodes of every role. -/
structure RoleIndex where
  nodesOf : Keyed (Keyed Unit)

namespace RoleIndex

/-- The index with one more node under a role. -/
def add (index : RoleIndex) (role node : String) : RoleIndex :=
  ⟨index.nodesOf.insert role (((index.nodesOf.get? role).getD .empty).insert node ())⟩

/-- The index of a list of nodes. -/
def ofNodes (nodes : List Node) : RoleIndex :=
  nodes.foldl (fun index node =>
    (nodeRoles node).foldl (fun index role => index.add role node.name) index) ⟨.empty⟩

/-- The roles, in order. -/
def roles (index : RoleIndex) : List String := index.nodesOf.keys

/-- The nodes of a role, in order. -/
def nodes (index : RoleIndex) (role : String) : List String :=
  (index.nodesOf.get? role).elim [] (·.keys)

/-- Every role with each of its nodes, in order. -/
def pairs (index : RoleIndex) : List (String × String) :=
  index.nodesOf.entries.flatMap fun entry => entry.2.keys.map fun node => (entry.1, node)

/-- The number of pairs of a role and one of its nodes. -/
def pairCount (index : RoleIndex) : Nat := index.pairs.length

/-- Whether no node has a role. -/
def isEmpty (index : RoleIndex) : Bool := index.nodesOf.isEmpty

/-- The index as a JSON object. -/
def toJson (index : RoleIndex) : Json :=
  .object (index.nodesOf.entries.map fun entry => (entry.1, .array (entry.2.keys.map .string)))

/-! ## Resources -/

/-- Makes a standalone configuration of what a node's kubelet answers. -/
def configFilter : String :=
  ".kubeletconfig|.kind=\"KubeletConfiguration\"|.apiVersion=\"kubelet.config.k8s.io/v1beta1\""

/-- The resource that holds the kubelet configuration of a node, for one of its roles. -/
def resource (role node : String) : Resource :=
  { uri := "/api/v1/nodes/" ++ node ++ "/proxy/configz"
    dumpPath := nodeKey role node
    filter := configFilter }

/-- One resource for every pair of a role and one of its nodes. -/
def resources (index : RoleIndex) : List Resource :=
  index.pairs.map fun pair => resource pair.1 pair.2

end RoleIndex

end Kubelet

end ClusterEvidence
