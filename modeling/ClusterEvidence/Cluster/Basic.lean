import ClusterEvidence.Error
import ClusterEvidence.Kubelet.Roles

/-!
# The cluster's API

What the collector asks of a cluster: its nodes, the body of a URI, and one page of a collection.
A cluster is these three operations over a state, so that a recording, a server behind HTTP and a
cluster whose answers change in time are all clusters.

A collection is read page by page until a page has no token for the next one. A cluster says how
many pages a listing can have (`pageLimit`); a listing that has not ended by then never ends.
-/

namespace ClusterEvidence

/-- One page of a collection. -/
structure Cluster.Page where
  items : List Json
  /-- The token of the next page; none when this is the last. -/
  next : Option String

/-- The operations of a cluster whose state is `σ`. -/
structure Cluster (σ : Type) where
  /-- All nodes. -/
  listNodes : StateM σ (Except Cluster.Failure (List Node))
  /-- The body of a URI. -/
  getRaw : (uri : String) → StateM σ (Except Cluster.Failure Bytes)
  /-- One page of the collection at a URI, of at most so many items, with the token of the page
  unless it is the first. -/
  listPage : (uri : String) → (limit : Nat) → (token : Option String) →
    StateM σ (Except Cluster.Failure Cluster.Page)
  /-- The number of pages that no listing which ends exceeds. -/
  pageLimit : Nat

/-- The index of roles of a cluster's nodes. -/
def Cluster.roleIndex {σ : Type} (cluster : Cluster σ) :
    StateM σ (Except Error Kubelet.RoleIndex) := do
  match ← cluster.listNodes with
  | .error failure => return .error (.fetch "/api/v1/nodes" failure)
  | .ok nodes => return .ok (.ofNodes nodes)

end ClusterEvidence
