import ClusterEvidence.Proofs.Fetch.Source
import ClusterEvidence.Proofs.Kubelet.Index
import ClusterEvidence.Proofs.Kubelet.Reconcile

/-!
# The entries of nodes

The configurations of nodes and the artifacts of roles are stored in one map. A fetch of the
resources of an index stores under the keys of its pairs only, so the roles that get an artifact are
those of the index for which a configuration was left, the reserved role and names with slashes
aside. The key of such a role is the key of a node only if the node's role is the reserved one and
the node is called like the role; every other entry of a node stays as it is.

## Main results

* `collected_iff` — the roles that get an artifact.
* `nodeEntries_kept` — reconciling keeps the entries of nodes, except where a key is shared.
* `nodeEntry_replaced` — where it is shared, the entry of the node can be lost.
-/

namespace ClusterEvidence.Kubelet

variable {σ : Type} {cluster : Cluster σ} {index : RoleIndex} {nodes : List Node}
  {outcome : Outcome} {state : σ}

/-! ## What the fetch of an index leaves -/

/-- A kubelet configuration is read as the body of its URI. -/
private theorem strategyFor_resource (role node : String) :
    Fetch.strategyFor (RoleIndex.resource role node).uri = .plain := by
  have hne : (RoleIndex.resource role node).uri ≠ MachineConfig.collectionUri := by
    intro h
    have hlist := congrArg (fun uri : String => uri.toList.take 5) h
    simp [RoleIndex.resource, MachineConfig.collectionUri] at hlist
  rw [Fetch.strategyFor, if_neg hne]

/-- An entry comes from the answer of a node of the index. -/
theorem exists_pair_of_get? (hfetch : (Fetch.all cluster index.resources state).1 = .ok outcome)
    {key : String} {body : Bytes} (hget : outcome.results.get? key = some body) :
    ∃ role node, (role, node) ∈ index.pairs ∧ key = nodeKey role node ∧
      ∃ during, Fetch.Leaves (RoleIndex.resource role node)
        (Fetch.body cluster .plain (RoleIndex.resource role node).uri during).1 body := by
  obtain ⟨resource, hmem, during, hkey, hleaves⟩ := Fetch.exists_source_of_all hfetch hget
  obtain ⟨⟨role, node⟩, hpair, rfl⟩ := List.mem_map.1 hmem
  rw [strategyFor_resource] at hleaves
  exact ⟨role, node, hpair, hkey, during, hleaves⟩

/-- Some node without a slash in its name left a configuration for a role. -/
def LeftFor (index : RoleIndex) (results : Keyed Bytes) (role : String) : Prop :=
  ∃ node body, (role, node) ∈ index.pairs ∧ '/' ∉ node.toList ∧
    results.get? (nodeKey role node) = some body ∧ Outcome.isMarker body = false

/-- The roles that get an artifact. -/
theorem collected_iff
    (hfetch : (Fetch.all cluster (RoleIndex.ofNodes nodes).resources state).1 = .ok outcome)
    (role : String) :
    Collected outcome.results role ↔
      role ≠ reservedRole ∧ '/' ∉ role.toList ∧
        LeftFor (RoleIndex.ofNodes nodes) outcome.results role := by
  constructor
  · rintro ⟨_, node, body, key, hkey, hget, hmarker⟩
    obtain ⟨rfl, hrole, hnode, hreserved⟩ := ofNodeKey?_eq_some_iff.1 hkey
    obtain ⟨other, name, hpair, hsame, _⟩ := exists_pair_of_get? hfetch hget
    obtain ⟨rfl, rfl⟩ := eq_of_nodeKey_eq hrole hnode hsame.symm
    exact ⟨hreserved, hrole, name, body, hpair, hnode, hget, hmarker⟩
  · rintro ⟨hreserved, hrole, node, body, hpair, hnode, hget, hmarker⟩
    have hkey : ofNodeKey? (nodeKey role node) = some (role, node) :=
      ofNodeKey?_eq_some_iff.2 ⟨rfl, hrole, hnode, hreserved⟩
    exact ⟨RoleIndex.ne_empty_of_mem_pairs hpair, node, body, _, hkey, hget, hmarker⟩

/-! ## What reconciling keeps -/

/-- The results after the configurations of an index were reconciled, as far as its nodes go. -/
structure NodeEntriesKept (index : RoleIndex) (before after : Keyed Bytes) : Prop where
  /-- What is stored for a node stays as it is, and what is missing stays missing. -/
  kept : ∀ role node, ¬ (role = reservedRole ∧ Collected before node) →
    after.get? (nodeKey role node) = before.get? (nodeKey role node)
  /-- The key of an artifact is the key of a node in one case only. -/
  shared : ∀ role node other, Collected before other →
    (roleKey other = nodeKey role node ↔ role = reservedRole ∧ node = other)
  artifact : ∀ role, Collected before role → ∃ value, Stored before after role value
  /-- Nothing but artifacts is stored. -/
  onlyArtifacts : ∀ key, after.get? key ≠ before.get? key →
    ∃ role, Collected before role ∧ key = roleKey role
  collected : ∀ role, Collected before role ↔
    role ≠ reservedRole ∧ '/' ∉ role.toList ∧ LeftFor index before role

/-- Reconciling the fetched configurations of the nodes of a cluster keeps the entries of these
nodes, except where a node of the reserved role is called like a role that gets an artifact. -/
theorem nodeEntries_kept {result : Outcome}
    (hfetch : (Fetch.all cluster (RoleIndex.ofNodes nodes).resources state).1 = .ok outcome)
    (hreconcile : reconcile outcome = .ok result) :
    NodeEntriesKept (RoleIndex.ofNodes nodes) outcome.results result.results := by
  have hreconciled := reconciled hreconcile
  have hcollected := collected_iff hfetch
  have hshared : ∀ role node other, Collected outcome.results other →
      (roleKey other = nodeKey role node ↔ role = reservedRole ∧ node = other) := by
    intro role node other hother
    obtain ⟨_, hslash, _⟩ := (hcollected other).1 hother
    constructor
    · intro heq
      exact eq_of_nodeKey_eq_roleKey hslash heq.symm
    · rintro ⟨rfl, rfl⟩
      exact roleKey_eq node
  refine
    { kept := fun role node hnot => ?_
      shared := hshared
      artifact := hreconciled.artifact
      onlyArtifacts := fun key hne => ?_
      collected := hcollected }
  · refine hreconciled.others _ fun other hother heq => ?_
    obtain ⟨hrole, rfl⟩ := (hshared role node other hother).1 heq.symm
    exact hnot ⟨hrole, hother⟩
  · by_contra hnone
    refine hne (hreconciled.others key fun role hrole heq => ?_)
    exact hnone ⟨role, hrole, heq⟩

/-! ## A shared key -/

/-- What is fetched for a list of nodes, and what reconciling makes of it. -/
def run? (cluster : Cluster σ) (nodes : List Node) (state : σ) : Option (Outcome × Outcome) := do
  let outcome ← (Fetch.all cluster (RoleIndex.ofNodes nodes).resources state).1.toOption
  let result ← (reconcile outcome).toOption
  return (outcome, result)

theorem exists_run (h : (run? cluster nodes state).isSome = true) :
    ∃ outcome result, run? cluster nodes state = some (outcome, result) ∧
      (Fetch.all cluster (RoleIndex.ofNodes nodes).resources state).1 = .ok outcome ∧
      reconcile outcome = .ok result := by
  unfold run? at h ⊢
  cases hfetch : (Fetch.all cluster (RoleIndex.ofNodes nodes).resources state).1 with
  | error e => simp [hfetch, Except.toOption] at h
  | ok outcome =>
      cases hreconcile : reconcile outcome with
      | error e => simp [hfetch, hreconcile, Except.toOption] at h
      | ok result => exact ⟨outcome, result, by simp [hreconcile, Except.toOption], rfl, hreconcile⟩

/-- A node called `worker`, whose role is the reserved one, and a node whose role is `worker`. -/
def sharedNodes : List Node :=
  [⟨"worker", .ofList [("node-role.kubernetes.io/role", "")]⟩,
    ⟨"w0", .ofList [("node-role.kubernetes.io/worker", "")]⟩]

/-- The answer of a node with a number of pods. -/
def podsAnswer (pods : Nat) : Json :=
  .object [("kubeletconfig", .object [("maxPods", .number (.integer pods))])]

/-- What is stored of it. -/
def podsConfig (pods : Nat) : Bytes :=
  (Json.object [("apiVersion", .string "kubelet.config.k8s.io/v1beta1"),
    ("kind", .string "KubeletConfiguration"), ("maxPods", .number (.integer pods))]).compactBytes

/-- The number of pods of the two nodes. -/
def sharedPods (uri : String) : Nat :=
  if uri = "/api/v1/nodes/worker/proxy/configz" then 1 else 2

def sharedCluster : Cluster Unit where
  listNodes := fun state => (.ok sharedNodes, state)
  getRaw := fun uri state => (.ok (podsAnswer (sharedPods uri)).compactBytes, state)
  listPage := fun _ _ _ state => (.ok ⟨[], none⟩, state)
  pageLimit := 1

/-- What stands under the shared key before and after reconciling. -/
private theorem map_run?_shared :
    (run? sharedCluster sharedNodes ()).map (fun run =>
      (run.1.results.get? (nodeKey reservedRole "worker"),
        run.2.results.get? (nodeKey reservedRole "worker"))) =
      some (some (podsConfig 1), some (podsConfig 2)) := by
  decide +kernel

theorem isSome_run?_shared : (run? sharedCluster sharedNodes ()).isSome = true := by
  rw [← Option.isSome_map, map_run?_shared]
  rfl

theorem nodeEntries_kept_shared : ∃ outcome result,
    (Fetch.all sharedCluster (RoleIndex.ofNodes sharedNodes).resources ()).1 = .ok outcome ∧
      reconcile outcome = .ok result ∧
      NodeEntriesKept (RoleIndex.ofNodes sharedNodes) outcome.results result.results := by
  obtain ⟨outcome, result, _, hfetch, hreconcile⟩ := exists_run isSome_run?_shared
  exact ⟨outcome, result, hfetch, hreconcile, nodeEntries_kept hfetch hreconcile⟩

/-- The entry of the node `worker` is lost to the artifact of the role `worker`. -/
theorem nodeEntry_replaced : ∃ outcome result,
    (Fetch.all sharedCluster (RoleIndex.ofNodes sharedNodes).resources ()).1 = .ok outcome ∧
      reconcile outcome = .ok result ∧
      (reservedRole, "worker") ∈ (RoleIndex.ofNodes sharedNodes).pairs ∧
      outcome.results.get? (nodeKey reservedRole "worker") = some (podsConfig 1) ∧
      result.results.get? (nodeKey reservedRole "worker") = some (podsConfig 2) := by
  obtain ⟨outcome, result, heq, hfetch, hreconcile⟩ := exists_run isSome_run?_shared
  have hentries := map_run?_shared
  rw [heq, Option.map_some, Option.some.injEq, Prod.mk.injEq] at hentries
  exact ⟨outcome, result, hfetch, hreconcile, by decide, hentries⟩

end ClusterEvidence.Kubelet
