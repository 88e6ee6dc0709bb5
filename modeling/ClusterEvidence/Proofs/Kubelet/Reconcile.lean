import ClusterEvidence.Proofs.Kubelet.Baseline
import ClusterEvidence.Proofs.Kubelet.Grouping

/-!
# What reconciling stores

For every role that has a configuration left, reconciling stores the meet of all its configurations,
and it changes nothing else. The three parts come together here: the groups are what the results
hold under the keys of nodes, each group is folded to its baseline, and the baselines are stored
under the keys of their roles.

## Main results

* `reconcile_storesMeets` — what a successful reconciliation stores, and that it does not depend on
  which node has which configuration.
-/

namespace ClusterEvidence.Kubelet

open Json

/-! ## The configurations of a role -/

/-- A body that the results hold for a node of a role, and that is no marker. -/
def NodeBody (results : Keyed Bytes) (role node : String) (body : Bytes) : Prop :=
  ∃ key, ofNodeKey? key = some (role, node) ∧ results.get? key = some body ∧
    Outcome.isMarker body = false

/-- The value of a configuration of a role. -/
def RoleConfig (results : Keyed Bytes) (role : String) (config : Json) : Prop :=
  ∃ node body, NodeBody results role node body ∧ Json.read body = .ok config

/-- A role has a name and a configuration. -/
def Collected (results : Keyed Bytes) (role : String) : Prop :=
  role ≠ "" ∧ ∃ node body, NodeBody results role node body

/-- All configurations of a role are equal. -/
def Agree (results : Keyed Bytes) (role : String) : Prop :=
  ∀ one other, RoleConfig results role one → RoleConfig results role other →
    equal one other = true

/-- Two results have the same configurations for a role, whichever nodes have them. -/
def SameConfigs (results others : Keyed Bytes) (role : String) : Prop :=
  (∀ config, RoleConfig results role config →
    ∃ other, RoleConfig others role other ∧ equal config other = true) ∧
  ∀ other, RoleConfig others role other →
    ∃ config, RoleConfig results role config ∧ equal config other = true

/-- What a body and its value have to be in order to be what the nodes of a role have in common. -/
structure IsArtifact (results : Keyed Bytes) (role : String) (artifact : Bytes) (value : Json) :
    Prop where
  meet : IsMeet (RoleConfig results role) value
  canonical : Canonical value
  /-- What all configurations have in some place, the value has there. -/
  keeps : ∀ path x, Canonical x →
    (∀ config, RoleConfig results role config →
      ∃ y, memberAt? path config = some y ∧ equal x y = true) →
    ∃ y, memberAt? path value = some y ∧ equal x y = true
  /-- What the value has in some place, all configurations have there. -/
  keepsOnly : ∀ path x, memberAt? path value = some x →
    ∀ config, RoleConfig results role config → ∃ y, memberAt? path config = some y ∧ Below x y
  /-- As long as all agree it is the body of the first node. -/
  agreed : Agree results role →
    (∃ node, NodeBody results role node artifact ∧
      ∀ other body, NodeBody results role other body → node ≤ other) ∧
    Json.read artifact = .ok value
  diverged : ¬ Agree results role → artifact = value.compactBytes
  /-- The body is a JSON text of the value, as far as doubles are read back from their text. -/
  reads : (∀ config, RoleConfig results role config → DoublesReadBack config) →
    ∃ stored, Json.read artifact = .ok stored ∧ equal value stored = true

/-- The results hold what the nodes of a role have in common. -/
def Stored (before after : Keyed Bytes) (role : String) (value : Json) : Prop :=
  ∃ artifact, after.get? (roleKey role) = some artifact ∧ IsArtifact before role artifact value

/-- How results are related to those from which they were reconciled. -/
structure Reconciled (before after : Keyed Bytes) : Prop where
  configs : ∀ role node body, role ≠ "" → NodeBody before role node body →
    ∃ config, Json.read body = .ok config ∧ config.isObject = true
  artifact : ∀ role, Collected before role → ∃ value, Stored before after role value
  others : ∀ key, (∀ role, Collected before role → key ≠ roleKey role) →
    after.get? key = before.get? key
  /-- A role without a configuration gets no artifact. -/
  markers : ∀ role, ¬ Collected before role →
    after.get? (roleKey role) = before.get? (roleKey role)

/-! ## Groups -/

variable {results : Keyed Bytes} {role : String} {nodes : Keyed Bytes}

/-- The bodies of a group that are no markers are those of the role. -/
theorem noMarker_mem_group_iff (h : (role, nodes) ∈ (byRole results).entries) {node : String}
    {body : Bytes} :
    (node, body) ∈ nodes.entries ∧ Outcome.isMarker body = false ↔
      role ≠ "" ∧ NodeBody results role node body := by
  have hbody : (node, body) ∈ nodes.entries ↔
      ∃ key, BelongsTo role node key ∧ results.get? key = some body := by
    rw [Keyed.mem_entries_iff] at h ⊢
    rw [← bodyIn?_byRole_eq_some_iff, bodyIn?, h]
    rfl
  rw [hbody]
  constructor
  · rintro ⟨⟨key, ⟨hrole, hkey⟩, hget⟩, hmarker⟩
    exact ⟨hrole, key, hkey, hget, hmarker⟩
  · rintro ⟨hrole, key, hkey, hget, hmarker⟩
    exact ⟨⟨key, ⟨hrole, hkey⟩, hget⟩, hmarker⟩

/-- A role with a configuration has a group. -/
theorem exists_group {node : String} {body : Bytes} (hrole : role ≠ "")
    (h : NodeBody results role node body) : ∃ nodes, (role, nodes) ∈ (byRole results).entries := by
  obtain ⟨key, hkey, hget, _⟩ := h
  have hbody := bodyIn?_byRole_eq_some_iff.2 ⟨key, ⟨hrole, hkey⟩, hget⟩
  obtain ⟨nodes, hnodes, _⟩ := Option.bind_eq_some_iff.1 hbody
  exact ⟨nodes, ((byRole results).mem_entries_iff role nodes).2 hnodes⟩

/-- The configurations of a group are those of the role. -/
theorem config_group (h : (role, nodes) ∈ (byRole results).entries) (hrole : role ≠ "") :
    Config nodes.entries = RoleConfig results role := by
  funext config
  refine propext ⟨?_, ?_⟩
  · rintro ⟨⟨node, body⟩, hentry, hmarker, hread⟩
    exact ⟨node, body, ((noMarker_mem_group_iff h).1 ⟨hentry, hmarker⟩).2, hread⟩
  · rintro ⟨node, body, hbody, hread⟩
    obtain ⟨hentry, hmarker⟩ := (noMarker_mem_group_iff h).2 ⟨hrole, hbody⟩
    exact ⟨(node, body), hentry, hmarker, hread⟩

/-- There is no baseline without a configuration. -/
private theorem collected_of_isBaseline (h : (role, nodes) ∈ (byRole results).entries)
    {baseline : Baseline} (hbaseline : IsBaseline nodes.entries baseline) :
    Collected results role := by
  suffices ∃ entry ∈ nodes.entries, Outcome.isMarker entry.2 = false by
    obtain ⟨⟨node, body⟩, hentry, hmarker⟩ := this
    obtain ⟨hrole, hbody⟩ := (noMarker_mem_group_iff h).1 ⟨hentry, hmarker⟩
    exact ⟨hrole, node, body, hbody⟩
  cases hbytes : baseline.bytes? with
  | some bytes =>
      obtain ⟨⟨node, hfirst⟩, _⟩ := hbaseline.agreed bytes hbytes
      exact ⟨_, hfirst.mem, hfirst.noMarker⟩
  | none =>
      obtain ⟨_, _, ⟨entry, hentry, hmarker, _⟩, _⟩ := hbaseline.diverged hbytes
      exact ⟨entry, hentry, hmarker⟩

/-- What is stored for a baseline is what the nodes of the role have in common. -/
private theorem isArtifact_of_isBaseline (h : (role, nodes) ∈ (byRole results).entries)
    (hcollected : Collected results role)
    (hreadable : ∀ node body, NodeBody results role node body →
      ∃ config, Json.read body = .ok config)
    {baseline : Baseline} (hbaseline : IsBaseline nodes.entries baseline) :
    IsArtifact results role baseline.body baseline.value := by
  obtain ⟨hrole, node, body, hbody⟩ := hcollected
  have hconfig := config_group h hrole
  have hmeet := hbaseline.meet
  rw [hconfig] at hmeet
  refine ⟨hmeet, hbaseline.canonical, fun path x hx hall => ?_,
    fun path x hx config hin => hmeet.exists_memberAt?_above hx hin, fun hagree => ?_,
    fun hnot => ?_,
    fun hdoubles => ?_⟩
  · obtain ⟨config, hread⟩ := hreadable node body hbody
    exact hmeet.exists_memberAt?_equal hbaseline.canonical ⟨config, node, body, hbody, hread⟩ hx
      hall
  · cases hbytes : baseline.bytes? with
    | none =>
        obtain ⟨one, other, hone, hother, hne⟩ := hbaseline.diverged hbytes
        rw [hconfig] at hone hother
        simp [hagree one other hone hother] at hne
    | some bytes =>
        obtain ⟨⟨first, hfirst⟩, hread, _⟩ := hbaseline.agreed bytes hbytes
        have hartifact : baseline.body = bytes := by simp [Baseline.body, hbytes]
        rw [hartifact]
        refine ⟨⟨first, ((noMarker_mem_group_iff h).1 ⟨hfirst.mem, hfirst.noMarker⟩).2,
          fun other body hbody => ?_⟩, hread⟩
        obtain ⟨hentry, hmarker⟩ := (noMarker_mem_group_iff h).2 ⟨hrole, hbody⟩
        exact hfirst.le nodes.sorted hentry hmarker
  · cases hbytes : baseline.bytes? with
    | none => simp [Baseline.body, hbytes]
    | some bytes =>
        obtain ⟨_, _, hagree⟩ := hbaseline.agreed bytes hbytes
        rw [hconfig] at hagree
        exact absurd (fun one other hone hother =>
          equal_trans (equal_symm (hagree one hone)) (hagree other hother)) hnot
  · rw [← hconfig] at hdoubles
    exact hbaseline.exists_read_body hdoubles

/-! ## All roles -/

/-- One more role in front is folded first. -/
theorem foldRoles_cons_eq_ok {roles : List (String × Keyed Bytes)} {taken : Taken}
    (h : foldRoles ((role, nodes) :: roles) = .ok taken) :
    ∃ baseline? own rest, foldRole role nodes = .ok (baseline?, own) ∧
      foldRoles roles = .ok rest ∧
      taken = ((baseline?.map fun baseline => (roleKey role, baseline.body)).toList ++ rest.1,
        own ++ rest.2) := by
  rw [foldRoles] at h
  cases hfirst : foldRole role nodes with
  | error e => simp [hfirst, bind, Except.bind] at h
  | ok state =>
      cases hrest : foldRoles roles with
      | error e => simp [hfirst, hrest, bind, Except.bind] at h
      | ok rest =>
          rw [hfirst, hrest] at h
          cases h
          exact ⟨state.1, state.2, rest, rfl, rfl, rfl⟩

/-- Every role was folded, and the entries to be stored are those of the baselines. -/
theorem foldRoles_eq_ok {roles : List (String × Keyed Bytes)} {entries : List (String × Bytes)}
    {warnings : List String} (h : foldRoles roles = .ok (entries, warnings)) :
    (∀ role nodes, (role, nodes) ∈ roles →
        ∃ baseline? own, foldRole role nodes = .ok (baseline?, own) ∧
          ∀ baseline, baseline? = some baseline → (roleKey role, baseline.body) ∈ entries) ∧
      ∀ entry ∈ entries, ∃ role nodes baseline own, (role, nodes) ∈ roles ∧
        foldRole role nodes = .ok (some baseline, own) ∧ entry = (roleKey role, baseline.body) := by
  induction roles generalizing entries warnings with
  | nil =>
      cases h
      simp
  | cons first roles ih =>
      obtain ⟨role, nodes⟩ := first
      obtain ⟨baseline?, own, rest, hfirst, hrest, htaken⟩ := foldRoles_cons_eq_ok h
      cases htaken
      obtain ⟨hforth, hback⟩ := ih hrest
      constructor
      · intro role' nodes' hmem
        rcases List.mem_cons.1 hmem with heq | hmem
        · cases heq
          refine ⟨baseline?, own, hfirst, fun baseline hbaseline => ?_⟩
          simp [hbaseline]
        · obtain ⟨baseline?, own, hfold, hentry⟩ := hforth role' nodes' hmem
          exact ⟨baseline?, own, hfold, fun baseline hbaseline =>
            List.mem_append_right _ (hentry baseline hbaseline)⟩
      · intro entry hentry
        rcases List.mem_append.1 hentry with hentry | hentry
        · rw [Option.mem_toList, Option.map_eq_some_iff] at hentry
          obtain ⟨baseline, rfl, rfl⟩ := hentry
          exact ⟨role, nodes, baseline, own, List.mem_cons_self, hfirst, rfl⟩
        · obtain ⟨role', nodes', baseline, own, hmem, hfold, heq⟩ := hback entry hentry
          exact ⟨role', nodes', baseline, own, List.mem_cons_of_mem _ hmem, hfold, heq⟩

section Artifacts

variable {artifacts : List (String × Bytes)} {warnings : List String} {artifact : Bytes}

/-- The group and the baseline behind an artifact. -/
theorem exists_fold_of_mem
    (h : foldRoles (byRole results).entries = .ok (artifacts, warnings))
    (hmem : (roleKey role, artifact) ∈ artifacts) :
    ∃ nodes baseline own, (role, nodes) ∈ (byRole results).entries ∧
      foldRole role nodes = .ok (some baseline, own) ∧ artifact = baseline.body := by
  obtain ⟨other, nodes, baseline, own, hnodes, hfold, heq⟩ := (foldRoles_eq_ok h).2 _ hmem
  rw [Prod.mk.injEq] at heq
  obtain rfl := roleKey_injective heq.1
  exact ⟨nodes, baseline, own, hnodes, hfold, heq.2⟩

/-- The roles that get an artifact are those with a configuration. -/
theorem exists_mem_artifacts_iff
    (h : foldRoles (byRole results).entries = .ok (artifacts, warnings)) :
    (∃ artifact, (roleKey role, artifact) ∈ artifacts) ↔ Collected results role := by
  constructor
  · rintro ⟨artifact, hmem⟩
    obtain ⟨nodes, baseline, own, hnodes, hfold, _⟩ := exists_fold_of_mem h hmem
    exact collected_of_isBaseline hnodes ((folded_foldRole hfold).baseline baseline rfl)
  · rintro ⟨hrole, node, body, hbody⟩
    obtain ⟨nodes, hnodes⟩ := exists_group hrole hbody
    obtain ⟨baseline?, own, hfold, hentry⟩ := (foldRoles_eq_ok h).1 role nodes hnodes
    cases baseline? with
    | none =>
        obtain ⟨hbody, hmarker⟩ := (noMarker_mem_group_iff hnodes).2 ⟨hrole, hbody⟩
        simp [(folded_foldRole hfold).markers rfl _ hbody] at hmarker
    | some baseline => exact ⟨baseline.body, hentry baseline rfl⟩

theorem exists_collected_of_mem
    (h : foldRoles (byRole results).entries = .ok (artifacts, warnings)) {entry : String × Bytes}
    (hmem : entry ∈ artifacts) : ∃ role, Collected results role ∧ entry.1 = roleKey role := by
  obtain ⟨role, nodes, baseline, own, _, _, rfl⟩ := (foldRoles_eq_ok h).2 entry hmem
  exact ⟨role, (exists_mem_artifacts_iff h).1 ⟨_, hmem⟩, rfl⟩

/-- An artifact is found under the key of its role, which has one group only. -/
theorem get?_insertMany_of_mem
    (h : foldRoles (byRole results).entries = .ok (artifacts, warnings))
    (hmem : (roleKey role, artifact) ∈ artifacts) :
    (results.insertMany artifacts).get? (roleKey role) = some artifact := by
  have hone : ∀ other, (roleKey role, other) ∈ artifacts.reverse → other = artifact := by
    intro other hother
    obtain ⟨nodes, baseline, own, hnodes, hfold, rfl⟩ := exists_fold_of_mem h hmem
    obtain ⟨nodes', baseline', own', hnodes', hfold', rfl⟩ :=
      exists_fold_of_mem h (List.mem_reverse.1 hother)
    rw [Keyed.mem_entries_iff] at hnodes hnodes'
    rw [hnodes, Option.some.injEq] at hnodes'
    subst hnodes'
    rw [hfold, Except.ok.injEq, Prod.mk.injEq, Option.some.injEq] at hfold'
    rw [hfold'.1]
  rw [Keyed.get?_insertMany, Entries.get?_eq_some_of_mem (List.mem_reverse.2 hmem) hone]
  rfl

/-- Nothing else is stored. -/
theorem get?_insertMany_of_not_collected
    (h : foldRoles (byRole results).entries = .ok (artifacts, warnings)) {key : String}
    (hkey : ∀ role, Collected results role → key ≠ roleKey role) :
    (results.insertMany artifacts).get? key = results.get? key := by
  have hnone : Entries.get? key artifacts.reverse = none := by
    refine Entries.get?_eq_none_iff.2 fun entry hentry heq => ?_
    obtain ⟨role, hrole, hown⟩ := exists_collected_of_mem h (List.mem_reverse.1 hentry)
    exact hkey role hrole (heq.symm.trans hown)
  rw [Keyed.get?_insertMany, hnone]
  rfl

/-- What was folded can be read. -/
private theorem readable_of_foldRoles
    (h : foldRoles (byRole results).entries = .ok (artifacts, warnings)) (hrole : role ≠ "")
    {node : String} {body : Bytes} (hbody : NodeBody results role node body) :
    ∃ config, Json.read body = .ok config ∧ config.isObject = true := by
  obtain ⟨nodes, hnodes⟩ := exists_group hrole hbody
  obtain ⟨baseline?, own, hfold, _⟩ := (foldRoles_eq_ok h).1 role nodes hnodes
  obtain ⟨hentry, hmarker⟩ := (noMarker_mem_group_iff hnodes).2 ⟨hrole, hbody⟩
  exact (folded_foldRole hfold).readable _ hentry hmarker

/-- An artifact is what the nodes of its role have in common. -/
theorem isArtifact_of_mem
    (h : foldRoles (byRole results).entries = .ok (artifacts, warnings))
    (hmem : (roleKey role, artifact) ∈ artifacts) :
    ∃ value, IsArtifact results role artifact value := by
  have hcollected := (exists_mem_artifacts_iff h).1 ⟨artifact, hmem⟩
  obtain ⟨nodes, baseline, own, hnodes, hfold, rfl⟩ := exists_fold_of_mem h hmem
  have hreadable : ∀ node body, NodeBody results role node body →
      ∃ config, Json.read body = .ok config := by
    intro node body hbody
    exact (readable_of_foldRoles h hcollected.1 hbody).imp fun _ => And.left
  exact ⟨baseline.value, isArtifact_of_isBaseline hnodes hcollected hreadable
    ((folded_foldRole hfold).baseline baseline rfl)⟩

end Artifacts

/-- A reconciliation stores what its roles get and notes the warnings about them. -/
theorem reconcile_eq (outcome : Outcome) :
    reconcile outcome = (foldRoles (byRole outcome.results).entries).map fun taken =>
      ⟨outcome.results.insertMany taken.1, outcome.warnings ++ taken.2⟩ := by
  rw [reconcile]
  cases foldRoles (byRole outcome.results).entries <;> rfl

/-- A successful reconciliation stores its artifacts. -/
theorem exists_artifacts_of_reconcile {outcome result : Outcome}
    (h : reconcile outcome = .ok result) :
    ∃ artifacts warnings,
      foldRoles (byRole outcome.results).entries = .ok (artifacts, warnings) ∧
        result = ⟨outcome.results.insertMany artifacts, outcome.warnings ++ warnings⟩ := by
  rw [reconcile_eq] at h
  cases hroles : foldRoles (byRole outcome.results).entries with
  | error e => simp [hroles, Except.map] at h
  | ok taken =>
      rw [hroles] at h
      cases h
      exact ⟨taken.1, taken.2, rfl, rfl⟩

/-- What a reconciliation stores is what the nodes of each role have in common. -/
theorem reconciled {outcome result : Outcome} (h : reconcile outcome = .ok result) :
    Reconciled outcome.results result.results := by
  obtain ⟨artifacts, warnings, hfold, rfl⟩ := exists_artifacts_of_reconcile h
  refine
    { configs := fun role node body hrole hbody => readable_of_foldRoles hfold hrole hbody
      artifact := fun role hcollected => ?_
      others := fun key hkey => get?_insertMany_of_not_collected hfold hkey
      markers := fun role hrole => ?_ }
  · obtain ⟨artifact, hmem⟩ := (exists_mem_artifacts_iff hfold).2 hcollected
    obtain ⟨value, hvalue⟩ := isArtifact_of_mem hfold hmem
    exact ⟨value, artifact, get?_insertMany_of_mem hfold hmem, hvalue⟩
  · refine get?_insertMany_of_not_collected hfold fun other hother heq => ?_
    exact hrole (roleKey_injective heq ▸ hother)

/-- A successful reconciliation stores what the nodes of each role have in common, which is the same
for all results with the same configurations. -/
theorem reconcile_storesMeets {outcome result : Outcome} (h : reconcile outcome = .ok result) :
    Reconciled outcome.results result.results ∧
      ∀ other otherResult, reconcile other = .ok otherResult →
        ∀ role, Collected outcome.results role →
          SameConfigs outcome.results other.results role →
          ∃ value otherValue, Stored outcome.results result.results role value ∧
            Stored other.results otherResult.results role otherValue ∧
            equal value otherValue = true := by
  have hreconciled := reconciled h
  refine ⟨hreconciled, fun other otherResult hother role hcollected hsame => ?_⟩
  have hcollected' : Collected other.results role := by
    obtain ⟨hrole, node, body, hbody⟩ := hcollected
    obtain ⟨config, hread, _⟩ := hreconciled.configs role node body hrole hbody
    obtain ⟨_, ⟨node, body, hbody, _⟩, _⟩ := hsame.1 config ⟨node, body, hbody, hread⟩
    exact ⟨hrole, node, body, hbody⟩
  obtain ⟨value, artifact, hget, hartifact⟩ := hreconciled.artifact role hcollected
  obtain ⟨otherValue, otherArtifact, hotherGet, hotherArtifact⟩ :=
    (reconciled hother).artifact role hcollected'
  exact ⟨value, otherValue, ⟨artifact, hget, hartifact⟩, ⟨otherArtifact, hotherGet, hotherArtifact⟩,
    hartifact.meet.equal_of_same hotherArtifact.meet hartifact.canonical hotherArtifact.canonical
      hsame.1 hsame.2⟩

/-- A configuration of a node that listens on a port. -/
def portConfig (port : String) : Bytes :=
  Text.encodeString ("\x7b\"kind\":\"KubeletConfiguration\",\"port\":" ++ port ++ "\x7d")

/-- Three nodes of one role, one of them missing and the others not alike, and a node of another
role. -/
def portOutcome : Outcome where
  results := .ofList [(nodeKey "master" "a", Outcome.marker "NotFound"),
    (nodeKey "master" "b", portConfig "1"), (nodeKey "master" "c", portConfig "2"),
    (nodeKey "worker" "d", portConfig "1")]
  warnings := []

theorem exists_reconcile_ports : ∃ result, reconcile portOutcome = .ok result := by
  have hok : (reconcile portOutcome).toOption.isSome = true := by decide +kernel
  cases h : reconcile portOutcome with
  | error e => simp [h, Except.toOption] at hok
  | ok result => exact ⟨result, rfl⟩

theorem reconcile_storesMeets_ports : ∃ result, reconcile portOutcome = .ok result ∧
    Reconciled portOutcome.results result.results := by
  obtain ⟨result, h⟩ := exists_reconcile_ports
  exact ⟨result, h, (reconcile_storesMeets h).1⟩

end ClusterEvidence.Kubelet
