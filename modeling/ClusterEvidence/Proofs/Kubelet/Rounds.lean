import ClusterEvidence.Proofs.Kubelet.Refusal

/-!
# Reconciling again

A round of reconciling reads the entries of nodes and stores those of roles in the same results. No
key of a role is read back as a node's, so the next round finds the same groups, whatever the first
one stored or replaced. It folds them to the same artifacts, which are there already, and notes the
same warnings once more. A round that fails leaves everything to the next one as it found it.

## Main results

* `afterRounds_succ` — rounds that succeed store once and note every time.
* `afterRounds_of_error` — rounds that fail leave the outcome as it was.
* `reconcile_settles` — both of an outcome and any number of rounds.
-/

namespace ClusterEvidence.Kubelet

/-- An outcome after so many rounds of reconciling it in its place. -/
def afterRounds (outcome : Outcome) : Nat → Outcome
  | 0 => outcome
  | k + 1 => (reconcileInPlace.run (afterRounds outcome k)).2

/-! ## Rounds that succeed -/

/-- What is stored belongs to no node. -/
private theorem ofNodeKey?_of_mem_artifacts {groups : List (String × Keyed Bytes)}
    {artifacts : List (String × Bytes)} {noted : List String}
    (h : foldRoles groups = .ok (artifacts, noted)) {entry : String × Bytes}
    (hentry : entry ∈ artifacts) : ofNodeKey? entry.1 = none := by
  obtain ⟨role, _, _, _, _, _, rfl⟩ := (foldRoles_eq_ok h).2 entry hentry
  exact ofNodeKey?_roleKey role

section Succeeding

variable {outcome : Outcome} {artifacts : List (String × Bytes)} {noted : List String}

/-- A round over the same groups stores the same artifacts and notes the same warnings. -/
private theorem run_of_sameGroups
    (h : foldRoles (byRole outcome.results).entries = .ok (artifacts, noted)) {later : Outcome}
    (hgroups : byRole later.results = byRole outcome.results) :
    reconcileInPlace.run later =
      (.ok (), ⟨later.results.insertMany artifacts, later.warnings ++ noted⟩) := by
  have hlater : reconcile later =
      .ok ⟨later.results.insertMany artifacts, later.warnings ++ noted⟩ := by
    rw [reconcile_eq, hgroups, h]
    rfl
  rw [run_reconcileInPlace, hlater]

/-- The groups are the same after any number of artifacts were stored. -/
private theorem byRole_insertMany_artifacts
    (h : foldRoles (byRole outcome.results).entries = .ok (artifacts, noted)) :
    byRole (outcome.results.insertMany artifacts) = byRole outcome.results := by
  apply byRole_insertMany
  intro entry hentry
  exact ofNodeKey?_of_mem_artifacts h hentry

/-- Rounds that succeed store once and note every time. -/
theorem afterRounds_succ
    (h : foldRoles (byRole outcome.results).entries = .ok (artifacts, noted)) (k : Nat) :
    afterRounds outcome (k + 1) =
      ⟨outcome.results.insertMany artifacts,
        outcome.warnings ++ (List.replicate (k + 1) noted).flatten⟩ := by
  induction k with
  | zero =>
      show (reconcileInPlace.run outcome).2 = _
      rw [run_of_sameGroups h rfl]
      simp
  | succ k ih =>
      show (reconcileInPlace.run (afterRounds outcome (k + 1))).2 = _
      -- The warnings of this round come behind those of the earlier ones.
      have hnoted : (List.replicate (k + 1) noted).flatten ++ noted =
          (List.replicate (k + 1 + 1) noted).flatten := by
        rw [List.replicate_succ' (n := k + 1), List.flatten_append, List.flatten_singleton]
      rw [ih, run_of_sameGroups h (byRole_insertMany_artifacts h), Keyed.insertMany_insertMany,
        List.append_assoc, hnoted]

/-- After any number of rounds the groups are those of the beginning. -/
private theorem byRole_afterRounds
    (h : foldRoles (byRole outcome.results).entries = .ok (artifacts, noted)) (k : Nat) :
    byRole (afterRounds outcome k).results = byRole outcome.results := by
  cases k with
  | zero => rfl
  | succ k =>
      rw [afterRounds_succ h]
      exact byRole_insertMany_artifacts h

end Succeeding

/-! ## Rounds that fail -/

/-- Rounds that fail leave the outcome as it was. -/
theorem afterRounds_of_error {outcome : Outcome} {e : Error} (h : reconcile outcome = .error e)
    (k : Nat) : afterRounds outcome k = outcome := by
  induction k with
  | zero => rfl
  | succ k ih =>
      show (reconcileInPlace.run (afterRounds outcome k)).2 = outcome
      rw [ih, run_reconcileInPlace, h]

/-! ## Any number of rounds -/

/-- What any number of rounds makes of an outcome. -/
structure Settles (outcome : Outcome) : Prop where
  /-- The results after the first round stay. -/
  results : ∀ k, 1 ≤ k → (afterRounds outcome k).results = (afterRounds outcome 1).results
  /-- When the first round succeeds, every round does, and each notes the same warnings. -/
  succeeds : (reconcileInPlace.run outcome).1 = .ok () →
    ∃ noted, ∀ k, (reconcileInPlace.run (afterRounds outcome k)).1 = .ok () ∧
      (afterRounds outcome k).warnings = outcome.warnings ++ (List.replicate k noted).flatten
  /-- When the first round fails, every round does with the same error and changes nothing. -/
  fails : ∀ e, (reconcileInPlace.run outcome).1 = .error e →
    ∀ k, reconcileInPlace.run (afterRounds outcome k) = (.error e, outcome)
  /-- A round takes up the nodes of the beginning and nothing that an earlier one stored. -/
  groups : ∀ k, byRole (afterRounds outcome k).results = byRole outcome.results
  /-- What rounds change belongs to no node. -/
  changes : ∀ k key, (afterRounds outcome k).results.get? key ≠ outcome.results.get? key →
    ofNodeKey? key = none

/-- Reconciling again changes nothing but the warnings, which are noted every time. -/
theorem reconcile_settles (outcome : Outcome) : Settles outcome := by
  cases hfold : foldRoles (byRole outcome.results).entries with
  | error e =>
      have hreconcile : reconcile outcome = .error e := by
        rw [reconcile_eq, hfold]
        rfl
      have hrun : reconcileInPlace.run outcome = (.error e, outcome) := by
        rw [run_reconcileInPlace, hreconcile]
      have hsame := afterRounds_of_error hreconcile
      refine
        { results := fun k _ => by rw [hsame, hsame]
          succeeds := fun hok => by simp [hrun] at hok
          fails := fun found hfound k => ?_
          groups := fun k => by rw [hsame]
          changes := fun k key hne => absurd (by rw [hsame]) hne }
      rw [hrun] at hfound
      cases hfound
      rw [hsame, hrun]
  | ok taken =>
      obtain ⟨artifacts, noted⟩ := taken
      have hrun := fun k => run_of_sameGroups hfold (byRole_afterRounds hfold k)
      refine
        { results := fun k hk => ?_
          succeeds := fun _ => ⟨noted, fun k => ⟨by rw [hrun], ?_⟩⟩
          fails := fun e he => ?_
          groups := byRole_afterRounds hfold
          changes := fun k key hne => ?_ }
      · obtain ⟨j, rfl⟩ := Nat.exists_eq_add_of_le' hk
        rw [afterRounds_succ hfold, afterRounds_succ hfold]
      · cases k with
        | zero => simp [afterRounds]
        | succ k => rw [afterRounds_succ hfold]
      · have hfirst := hrun 0
        rw [show afterRounds outcome 0 = outcome from rfl] at hfirst
        simp [hfirst] at he
      · cases k with
        | zero => exact absurd rfl hne
        | succ k =>
            rw [afterRounds_succ hfold, Keyed.get?_insertMany] at hne
            cases hget : Entries.get? key artifacts.reverse with
            | none =>
                rw [hget] at hne
                exact absurd rfl hne
            | some artifact =>
                have hentry := List.mem_reverse.1 (Entries.mem_of_get? hget)
                exact ofNodeKey?_of_mem_artifacts hfold hentry

end ClusterEvidence.Kubelet
