import ClusterEvidence.Text.Blank

/-!
# Keys of kubelet configurations

The configuration of a node's kubelet is stored under `/kubeletconfig/<role>/<node>`, once for
every role of the node, and what the nodes of a role have in common under
`/kubeletconfig/role/<role>`. A key is read back as a role and a node only when it is not of the
second form and has exactly one slash after its first part.
-/

namespace ClusterEvidence.Kubelet

/-- How the key of a kubelet configuration begins. -/
def keyStart : List Char := "/kubeletconfig/".toList

/-- How the key of a role's common configuration begins. -/
def roleKeyStart : List Char := "/kubeletconfig/role/".toList

/-- The key of a node's configuration for one of its roles. -/
def nodeKey (role node : String) : String :=
  String.ofList (keyStart ++ role.toList ++ '/' :: node.toList)

/-- The key of what the nodes of a role have in common. -/
def roleKey (role : String) : String := String.ofList (roleKeyStart ++ role.toList)

/-- The role and the node of a key that is a node's and not a role's. -/
def ofNodeKey? (key : String) : Option (String × String) :=
  if roleKeyStart.isPrefixOf key.toList then none
  else
    match keyStart.isPrefixOf? key.toList with
    | none => none
    | some rest =>
        match Text.splitOn '/' rest with
        | [role, node] => some (String.ofList role, String.ofList node)
        | _ => none

end ClusterEvidence.Kubelet
