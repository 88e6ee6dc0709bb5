import ClusterEvidence.Proofs.Kubelet.Reconcile
import ClusterEvidence.Proofs.Text.Order
import ClusterEvidence.Proofs.Traverse

/-!
# The configuration that ends a reconciliation

A body that is neither a marker nor the JSON text of an object is refused, and the first refused one
ends the reconciliation. Roles are taken in order and within a role the nodes are, so the first one
is the least by its role and then by its node; what came before it could be read (`Folded`), and
what comes after it is greater because the groups are sorted.

An outcome that is reconciled in its place is only read until all roles were taken, so a
reconciliation that fails leaves it as it was, however many roles it had gone through.

## Main results

* `exists_firstRefused` — the error of a reconciliation names the first refused configuration.
* `run_reconcileInPlace` — what becomes of an outcome that is reconciled in its place.
* `reconcile_failsAtomically` — when a reconciliation fails, whom it names, and what it leaves.
-/

namespace ClusterEvidence.Kubelet

/-! ## Refused bodies -/

/-- A body is the JSON text of an object. -/
def IsObjectText (body : Bytes) : Prop := ∃ members, Json.read body = .ok (.object members)

/-- Why a body is refused as a configuration. -/
inductive RefusedFor (body : Bytes) : ReconcileFault → Prop where
  | malformed {fault : Json.Fault} (h : Json.read body = .error fault) :
      RefusedFor body (.malformed fault)
  | notObject {value : Json} (h : Json.read body = .ok value) (hvalue : value.isObject = false) :
      RefusedFor body .notObject

/-- A body that the results hold for a node of a role, and that is neither a marker nor the text of
an object. -/
structure Refused (results : Keyed Bytes) (role node : String) (body : Bytes) : Prop where
  named : role ≠ ""
  held : NodeBody results role node body
  noObject : ¬ IsObjectText body

/-- A refused body with none in front of it, in the order of roles and then of nodes. -/
structure IsFirstRefused (results : Keyed Bytes) (role node : String) (body : Bytes) : Prop where
  refused : Refused results role node body
  first : ∀ role' node' body', Refused results role' node' body' →
    (role', node') = (role, node) ∨ Text.PairLt (role, node) (role', node')

private theorem isObjectText_iff {body : Bytes} :
    IsObjectText body ↔ ∃ value, Json.read body = .ok value ∧ value.isObject = true := by
  constructor
  · rintro ⟨members, hread⟩
    exact ⟨_, hread, rfl⟩
  · rintro ⟨value, hread, hobject⟩
    cases value <;> simp only [Json.isObject, Bool.false_eq_true] at hobject
    next members => exact ⟨members, hread⟩

private theorem RefusedFor.not_isObjectText {body : Bytes} {fault : ReconcileFault}
    (h : RefusedFor body fault) : ¬ IsObjectText body := by
  rintro ⟨members, hobject⟩
  cases h with
  | malformed hread =>
      rw [hread] at hobject
      cases hobject
  | notObject hread hvalue =>
      rw [hread, Except.ok.injEq] at hobject
      subst hobject
      cases hvalue

private theorem readConfig_eq_error {node : String} {body : Bytes} {e : Error}
    (h : readConfig node body = .error e) :
    ∃ fault, RefusedFor body fault ∧ e = .reconcile node fault := by
  unfold readConfig at h
  split at h
  · next fault hread =>
      cases h
      exact ⟨_, .malformed hread, rfl⟩
  · next value hread =>
      split at h
      · cases h
      · next hobject =>
          cases h
          exact ⟨_, .notObject hread (Bool.not_eq_true _ ▸ hobject), rfl⟩

/-! ## The first one -/

/-- Taking a node fails only where its body is refused. -/
private theorem foldNode_eq_error {role : String} {state : Option Baseline × List String}
    {entry : String × Bytes} {e : Error} (h : foldNode role state entry = .error e) :
    Outcome.isMarker entry.2 = false ∧ readConfig entry.1 entry.2 = .error e := by
  unfold foldNode at h
  split at h
  · cases h
  · next hmarker =>
      refine ⟨Bool.not_eq_true _ ▸ hmarker, ?_⟩
      split at h
      · next hread =>
          cases h
          exact hread
      · -- With a configuration that was read there is always a next state.
        split at h
        · cases h
        · split at h <;> cases h

/-- A role fails with its first refused node. -/
private theorem foldRole_eq_error {role : String} {nodes : Keyed Bytes} {e : Error}
    (h : foldRole role nodes = .error e) :
    ∃ front node body rest fault, nodes.entries = front ++ (node, body) :: rest ∧
      (∃ baseline?, Folded front baseline?) ∧ Outcome.isMarker body = false ∧
      RefusedFor body fault ∧ e = .reconcile node fault := by
  obtain ⟨front, ⟨node, body⟩, rest, state, hentries, hfront, hstep⟩ :=
    exists_of_foldlM_eq_error h
  have hstart : Folded [] ((none, []) : Option Baseline × List String).1 := .nil
  have hfolded := hstart.foldlM hfront
  obtain ⟨hmarker, hconfig⟩ := foldNode_eq_error hstep
  obtain ⟨fault, hfault, he⟩ := readConfig_eq_error hconfig
  exact ⟨front, node, body, rest, fault, hentries, ⟨_, hfolded⟩, hmarker, hfault, he⟩

/-- The roles fail with the first role that fails. -/
private theorem foldRoles_eq_error {groups : List (String × Keyed Bytes)} {e : Error}
    (h : foldRoles groups = .error e) :
    ∃ front role nodes rest, groups = front ++ (role, nodes) :: rest ∧
      (∀ group ∈ front, ∃ state, foldRole group.1 group.2 = .ok state) ∧
      foldRole role nodes = .error e := by
  induction groups with
  | nil => cases h
  | cons first groups ih =>
      obtain ⟨role, nodes⟩ := first
      rw [foldRoles] at h
      cases hfirst : foldRole role nodes with
      | error found =>
          simp only [hfirst, bind, Except.bind, Except.error.injEq] at h
          exact ⟨[], role, nodes, groups, rfl, by simp, h ▸ hfirst⟩
      | ok state =>
          cases hrest : foldRoles groups with
          | ok others => simp [hfirst, hrest, bind, Except.bind] at h
          | error found =>
              simp only [hfirst, hrest, bind, Except.bind, Except.error.injEq] at h
              obtain ⟨front, other, names, rest, rfl, hfront, hother⟩ := ih (h ▸ hrest)
              refine ⟨(role, nodes) :: front, other, names, rest, rfl, ?_, hother⟩
              exact List.forall_mem_cons.2 ⟨⟨state, hfirst⟩, hfront⟩

/-- A refused body is in the group of its role. -/
private theorem Refused.exists_mem_group {results : Keyed Bytes} {role node : String} {body : Bytes}
    (h : Refused results role node body) :
    ∃ nodes, (role, nodes) ∈ (byRole results).entries ∧ (node, body) ∈ nodes.entries := by
  obtain ⟨nodes, hgroup⟩ := exists_group h.named h.held
  exact ⟨nodes, hgroup, ((noMarker_mem_group_iff hgroup).2 ⟨h.named, h.held⟩).1⟩

/-- Nodes that were taken are not refused. -/
private theorem Refused.not_mem_of_folded {results : Keyed Bytes} {role node : String}
    {body : Bytes} (h : Refused results role node body) {seen : List (String × Bytes)}
    {baseline? : Option Baseline} (hfolded : Folded seen baseline?) : (node, body) ∉ seen := by
  intro hmem
  obtain ⟨_, _, _, hmarker⟩ := h.held
  exact h.noObject (isObjectText_iff.2 (hfolded.readable _ hmem hmarker))

/-- The error of a reconciliation names the first refused configuration. -/
theorem exists_firstRefused {results : Keyed Bytes} {e : Error}
    (h : foldRoles (byRole results).entries = .error e) :
    ∃ role node body fault, IsFirstRefused results role node body ∧ RefusedFor body fault ∧
      e = .reconcile node fault := by
  obtain ⟨earlier, role, nodes, later, hgroups, hearlier, hrole⟩ := foldRoles_eq_error h
  obtain ⟨front, node, body, rest, fault, hentries, ⟨baseline?, hfront⟩, hmarker, hfault, he⟩ :=
    foldRole_eq_error hrole
  have hgroup : (role, nodes) ∈ (byRole results).entries := by simp [hgroups]
  have hentry : (node, body) ∈ nodes.entries := by simp [hentries]
  obtain ⟨hnamed, hheld⟩ := (noMarker_mem_group_iff hgroup).1 ⟨hentry, hmarker⟩
  refine ⟨role, node, body, fault, ⟨⟨hnamed, hheld, hfault.not_isObjectText⟩, ?_⟩, hfault, he⟩
  intro role' node' body' hrefused
  obtain ⟨nodes', hgroup', hentry'⟩ := hrefused.exists_mem_group
  have hroles := (byRole results).sorted
  have hnodes := nodes.sorted
  rw [hgroups] at hgroup' hroles
  rw [hentries] at hnodes
  rcases List.mem_append.1 hgroup' with hin | hin
  · -- The roles in front of it went through.
    obtain ⟨⟨baseline?, warnings⟩, hfold⟩ := hearlier _ hin
    exact absurd hentry' (hrefused.not_mem_of_folded (folded_foldRole hfold))
  · rcases List.mem_cons.1 hin with heq | hin
    · cases heq
      rw [hentries] at hentry'
      rcases List.mem_append.1 hentry' with hin | hin
      · exact absurd hin (hrefused.not_mem_of_folded hfront)
      · rcases List.mem_cons.1 hin with heq | hin
        · cases heq
          exact .inl rfl
        · have hlt := (List.pairwise_cons.1 (List.pairwise_append.1 hnodes).2.1).1 _ hin
          exact .inr (Text.pairLt_iff.2 (.inr ⟨rfl, hlt⟩))
    · have hlt := (List.pairwise_cons.1 (List.pairwise_append.1 hroles).2.1).1 _ hin
      exact .inr (Text.pairLt_iff.2 (.inl hlt))

/-! ## In place -/

section InPlace

variable {α β : Type} {first : ExceptT Error (StateM Outcome) α}
  {rest : α → ExceptT Error (StateM Outcome) β} {before after : Outcome}

theorem run_bind_of_ok {value : α} (h : first.run before = (.ok value, after)) :
    (first >>= rest).run before = (rest value).run after := by
  rw [ExceptT.run_bind]
  simp only [bind, StateT.bind, h]

theorem run_bind_of_error {e : Error} (h : first.run before = (.error e, after)) :
    (first >>= rest).run before = (.error e, after) := by
  rw [ExceptT.run_bind]
  simp only [bind, StateT.bind, h]
  rfl

end InPlace

/-- Taking a role leaves the outcome as it is. -/
private theorem run_takeRole (taken : Taken) (role : String) (nodes : Keyed Bytes)
    (outcome : Outcome) :
    (takeRole taken (role, nodes)).run outcome =
      ((foldRole role nodes).map fun state =>
        (taken.1 ++ (state.1.map fun baseline => (roleKey role, baseline.body)).toList,
          taken.2 ++ state.2), outcome) := by
  have hfold : (liftM (foldRole role nodes) : ExceptT Error (StateM Outcome) _).run outcome =
      (foldRole role nodes, outcome) := rfl
  rw [takeRole]
  cases h : foldRole role nodes with
  | error e =>
      rw [h] at hfold
      exact run_bind_of_error hfold
  | ok state =>
      rw [h] at hfold
      exact run_bind_of_ok hfold

/-- Taking roles gathers what they get and leaves the outcome as it is. -/
private theorem run_foldlM_takeRole (groups : List (String × Keyed Bytes)) (taken : Taken)
    (outcome : Outcome) :
    (groups.foldlM takeRole taken).run outcome =
      ((foldRoles groups).map fun more => (taken.1 ++ more.1, taken.2 ++ more.2), outcome) := by
  induction groups generalizing taken with
  | nil =>
      rw [foldRoles, Except.map, List.append_nil, List.append_nil]
      rfl
  | cons group groups ih =>
      obtain ⟨role, nodes⟩ := group
      have hstep := run_takeRole taken role nodes outcome
      rw [List.foldlM_cons, foldRoles]
      cases hfold : foldRole role nodes with
      | error e =>
          rw [hfold] at hstep
          rw [run_bind_of_error hstep]
          rfl
      | ok state =>
          rw [hfold] at hstep
          rw [run_bind_of_ok hstep, ih]
          cases hrest : foldRoles groups with
          | error e => rfl
          | ok more =>
            simp [Except.map, bind, Except.bind]

/-- What becomes of an outcome that is reconciled in its place. -/
theorem run_reconcileInPlace (outcome : Outcome) :
    reconcileInPlace.run outcome =
      match reconcile outcome with
      | .ok result => (.ok (), result)
      | .error e => (.error e, outcome) := by
  have hget : (get : ExceptT Error (StateM Outcome) Outcome).run outcome = (.ok outcome, outcome) :=
    rfl
  have hroles := run_foldlM_takeRole (byRole outcome.results).entries ([], []) outcome
  rw [reconcileInPlace, run_bind_of_ok hget, reconcile]
  cases hfold : foldRoles (byRole outcome.results).entries with
  | error e =>
      rw [hfold] at hroles
      rw [run_bind_of_error hroles]
      rfl
  | ok state =>
      rw [hfold] at hroles
      rw [run_bind_of_ok hroles]
      rfl

/-- How a reconciliation fails: when it does, whom its error names, and that it changes nothing. -/
structure FailsAtomically (outcome : Outcome) : Prop where
  fails_iff : (∃ e, (reconcileInPlace.run outcome).1 = .error e) ↔
    ∃ role node body, Refused outcome.results role node body
  namesFirst : ∀ e, (reconcileInPlace.run outcome).1 = .error e →
    ∃ role node body fault, IsFirstRefused outcome.results role node body ∧
      RefusedFor body fault ∧ e = .reconcile node fault
  unchanged : ∀ e, (reconcileInPlace.run outcome).1 = .error e →
    (reconcileInPlace.run outcome).2 = outcome
  /-- A reconciliation that is not in place gives the same error. -/
  sameError : ∀ e, (reconcileInPlace.run outcome).1 = .error e ↔ reconcile outcome = .error e

/-- A reconciliation fails exactly where some configuration is refused; it names the first one and
leaves the outcome as it was. -/
theorem reconcile_failsAtomically (outcome : Outcome) : FailsAtomically outcome := by
  have hrun := run_reconcileInPlace outcome
  cases hreconcile : reconcile outcome with
  | ok result =>
      rw [hreconcile] at hrun
      have hobjects := (reconciled hreconcile).configs
      refine
        { fails_iff := ?_
          namesFirst := by simp [hrun]
          unchanged := by simp [hrun]
          sameError := by simp [hrun, hreconcile] }
      constructor
      · simp [hrun]
      · rintro ⟨role, node, body, hnamed, hheld, hno⟩
        exact absurd (isObjectText_iff.2 (hobjects role node body hnamed hheld)) hno
  | error e =>
      rw [hreconcile] at hrun
      have hfold : foldRoles (byRole outcome.results).entries = .error e := by
        cases hroles : foldRoles (byRole outcome.results).entries with
        | ok state => simp [reconcile, hroles, bind, Except.bind] at hreconcile
        | error found =>
            simp only [reconcile, hroles, bind, Except.bind, Except.error.injEq] at hreconcile
            rw [hreconcile]
      obtain ⟨role, node, body, fault, hfirst, hfault, he⟩ := exists_firstRefused hfold
      refine
        { fails_iff := ⟨fun _ => ⟨role, node, body, hfirst.refused⟩, fun _ => ⟨e, by rw [hrun]⟩⟩
          namesFirst := fun found hfound => ?_
          unchanged := fun _ _ => by rw [hrun]
          sameError := fun found => by simp [hrun, hreconcile] }
      rw [hrun, Except.error.injEq] at hfound
      exact ⟨role, node, body, fault, hfirst, hfault, hfound ▸ he⟩

end ClusterEvidence.Kubelet
