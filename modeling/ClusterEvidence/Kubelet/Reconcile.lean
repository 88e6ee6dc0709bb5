import ClusterEvidence.Error
import ClusterEvidence.Json.Meet
import ClusterEvidence.Json.Patch
import ClusterEvidence.Json.Reader
import ClusterEvidence.Kubelet.Key
import ClusterEvidence.Outcome

/-!
# One kubelet configuration per role

The nodes of a role should run with the same kubelet configuration. Reconciling an outcome stores,
for every role, what the configurations of its nodes have in common: the very bytes of the first
one as long as all agree, and otherwise the compact text of their meet. Nodes are taken in the
order of their names; one that differs from what its predecessors have in common is noted with a
warning that carries the difference.

Markers are skipped, and a role of which nothing else is left gets no entry. A configuration that
is no JSON object ends the reconciliation, and then nothing of it is kept: an outcome that is
reconciled in its place is changed only after all roles were taken.
-/

namespace ClusterEvidence.Kubelet

/-! ## Grouping -/

/-- The bodies of the nodes of each role. An entry whose role is empty belongs to none. -/
def byRole (results : Keyed Bytes) : Keyed (Keyed Bytes) :=
  results.entries.foldl (fun roles entry =>
    match ofNodeKey? entry.1 with
    | some (role, node) =>
        if role = "" then roles
        else roles.insert role (((roles.get? role).getD .empty).insert node entry.2)
    | none => roles) .empty

/-! ## Folding the nodes of a role -/

/-- What the nodes seen so far have in common, and the bytes of the first one while all agree. -/
structure Baseline where
  value : Json
  bytes? : Option Bytes

/-- The bytes that are stored for a baseline. -/
def Baseline.body (baseline : Baseline) : Bytes :=
  baseline.bytes?.getD baseline.value.compactBytes

/-- Reads the configuration of a node. -/
def readConfig (node : String) (body : Bytes) : Except Error Json :=
  match Json.read body with
  | .error fault => .error (.reconcile node (.malformed fault))
  | .ok value => if value.isObject then .ok value else .error (.reconcile node .notObject)

/-- The warning about a node whose configuration differs. -/
def divergence (role node : String) (operations : List Json.Operation) : String :=
  "Kubelet configs for " ++ node ++ " are not consistent with role " ++ role ++ ", diff: " ++
    Json.patchText operations ++ "; only the intersection of " ++ role ++
    " KubeletConfigs will be saved."

/-- Takes one more node of a role: the baseline and the warnings after it. -/
def foldNode (role : String) (state : Option Baseline × List String) (entry : String × Bytes) :
    Except Error (Option Baseline × List String) :=
  if Outcome.isMarker entry.2 then .ok state
  else
    match readConfig entry.1 entry.2 with
    | .error e => .error e
    | .ok value =>
        match state.1 with
        | none => .ok (some ⟨value, some entry.2⟩, state.2)
        | some baseline =>
            match Json.difference baseline.value value with
            | [] => .ok state
            | operations =>
                .ok (some ⟨(Json.meet? baseline.value value).getD .null, none⟩,
                  state.2 ++ [divergence role entry.1 operations])

/-- Takes the nodes of a role, in the order of their names. -/
def foldRole (role : String) (nodes : Keyed Bytes) : Except Error (Option Baseline × List String) :=
  nodes.entries.foldlM (foldNode role) (none, [])

/-! ## All roles -/

/-- The entries that the roles get and the warnings about them, in the order of the roles. -/
def foldRoles : List (String × Keyed Bytes) → Except Error (List (String × Bytes) × List String)
  | [] => .ok ([], [])
  | (role, nodes) :: roles => do
      let (baseline, warnings) ← foldRole role nodes
      let (entries, others) ← foldRoles roles
      let own := (baseline.map fun baseline => (roleKey role, baseline.body)).toList
      .ok (own ++ entries, warnings ++ others)

/-- The outcome with one configuration per role, or the error that leaves it as it is. -/
def reconcile (outcome : Outcome) : Except Error Outcome := do
  let (entries, warnings) ← foldRoles (byRole outcome.results).entries
  .ok ⟨outcome.results.insertMany entries, outcome.warnings ++ warnings⟩

/-! ## In place -/

/-- What the roles taken so far get: their entries and the warnings about them. -/
abbrev Taken := List (String × Bytes) × List String

/-- Takes one more role while an outcome is reconciled in its place. -/
def takeRole (taken : Taken) (group : String × Keyed Bytes) :
    ExceptT Error (StateM Outcome) Taken := do
  let (baseline, warnings) ← foldRole group.1 group.2
  let own := (baseline.map fun baseline => (roleKey group.1, baseline.body)).toList
  return (taken.1 ++ own, taken.2 ++ warnings)

/-- Reconciles an outcome in its place. What the roles get is gathered first and stored at the
end. -/
def reconcileInPlace : ExceptT Error (StateM Outcome) Unit := do
  let outcome ← get
  let (entries, warnings) ← (byRole outcome.results).entries.foldlM takeRole ([], [])
  modify fun outcome =>
    ⟨outcome.results.insertMany entries, outcome.warnings ++ warnings⟩

end ClusterEvidence.Kubelet
