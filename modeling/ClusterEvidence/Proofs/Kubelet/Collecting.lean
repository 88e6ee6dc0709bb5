import ClusterEvidence.Proofs.Fetch.Answer
import ClusterEvidence.Proofs.Kubelet.Configuration
import ClusterEvidence.Proofs.Kubelet.NodeEntries

/-!
# From the answers of nodes to the artifacts of roles

What a fetch of the resources of an index leaves under a key is a marker or the text of a standalone
kubelet configuration. Such a text is read back as an object that says what it is, so that
reconciling does not fail, and what the configurations of a role have in common says so too.

## Main results

* `exists_reconcile` — objects are reconciled.
* `collects_of_fetch` — the entries that a fetch leaves, and the artifacts that come of them.
-/

namespace ClusterEvidence.Kubelet

open Json

/-! ## Reconciling objects -/

/-- A body is a marker or the text of an object. -/
def Readable (body : Bytes) : Prop :=
  Outcome.isMarker body = false → ∃ value, Json.read body = .ok value ∧ value.isObject = true

private theorem exists_foldNode (role : String) {entry : String × Bytes} (h : Readable entry.2)
    (state : Option Baseline × List String) : ∃ next, foldNode role state entry = .ok next := by
  unfold foldNode
  by_cases hmarker : Outcome.isMarker entry.2 = true
  · rw [if_pos hmarker]
    exact ⟨state, rfl⟩
  · obtain ⟨value, hread, hobject⟩ := h (Bool.not_eq_true _ ▸ hmarker)
    have hconfig : readConfig entry.1 entry.2 = .ok value := by
      rw [readConfig, hread]
      exact if_pos hobject
    rw [if_neg hmarker, hconfig]
    dsimp only
    split
    · exact ⟨_, rfl⟩
    · split
      · exact ⟨_, rfl⟩
      · exact ⟨_, rfl⟩

private theorem exists_foldlM (role : String) {entries : List (String × Bytes)}
    (h : ∀ entry ∈ entries, Readable entry.2) (state : Option Baseline × List String) :
    ∃ last, entries.foldlM (foldNode role) state = .ok last := by
  induction entries generalizing state with
  | nil => exact ⟨state, rfl⟩
  | cons entry entries ih =>
      obtain ⟨next, hnext⟩ := exists_foldNode role (h entry List.mem_cons_self) state
      obtain ⟨last, hlast⟩ := ih (fun other hother => h other (List.mem_cons_of_mem _ hother)) next
      exact ⟨last, by rw [List.foldlM_cons, hnext]; exact hlast⟩

private theorem exists_foldRoles {roles : List (String × Keyed Bytes)}
    (h : ∀ role nodes, (role, nodes) ∈ roles → ∀ entry ∈ nodes.entries, Readable entry.2) :
    ∃ artifacts warnings, foldRoles roles = .ok (artifacts, warnings) := by
  induction roles with
  | nil => exact ⟨[], [], rfl⟩
  | cons first roles ih =>
      obtain ⟨role, nodes⟩ := first
      obtain ⟨⟨baseline, own⟩, hfirst⟩ : ∃ last, foldRole role nodes = .ok last :=
        exists_foldlM role (h role nodes List.mem_cons_self) _
      obtain ⟨others, warnings, hothers⟩ := ih fun other names hother =>
        h other names (List.mem_cons_of_mem _ hother)
      rw [foldRoles, hfirst]
      simp only [bind, Except.bind, hothers]
      exact ⟨_, _, rfl⟩

/-- Where every configuration of a role is an object, reconciling stores artifacts. -/
theorem exists_reconcile {outcome : Outcome}
    (h : ∀ role node body, role ≠ "" → NodeBody outcome.results role node body →
      ∃ value, Json.read body = .ok value ∧ value.isObject = true) :
    ∃ artifacts warnings,
      foldRoles (byRole outcome.results).entries = .ok (artifacts, warnings) ∧
        reconcile outcome =
          .ok ⟨outcome.results.insertMany artifacts, outcome.warnings ++ warnings⟩ := by
  have hgroups : ∀ role nodes, (role, nodes) ∈ (byRole outcome.results).entries →
      ∀ entry ∈ nodes.entries, Readable entry.2 := by
    rintro role nodes hnodes ⟨node, body⟩ hentry hmarker
    obtain ⟨hrole, hbody⟩ := (noMarker_mem_group_iff hnodes).1 ⟨hentry, hmarker⟩
    exact h role node body hrole hbody
  obtain ⟨artifacts, warnings, hfold⟩ := exists_foldRoles hgroups
  refine ⟨artifacts, warnings, hfold, ?_⟩
  rw [reconcile_eq, hfold]
  rfl

/-! ## What is stored of an answer -/

section Fetched

open Cluster

variable {σ : Type} {cluster : Cluster σ} {answers : Answers} {index : RoleIndex}
  {nodes : List Node} {outcome : Outcome} {state : σ}

/-- What is stored of the answer of a node: the marker of a missing one, or the text of the
configuration in it, with its kind and version set. -/
inductive StoredAnswer (answers : Answers) (role node : String) : Bytes → Prop where
  | marker {failure : Failure}
      (hanswer : answers.get (RoleIndex.resource role node).uri = .error failure)
      (hmissing : failure.isNotFound = true) :
      StoredAnswer answers role node (Outcome.marker failure.reason)
  | config {document : Bytes} {answer : Json} {members stored : List (String × Json)}
      (hanswer : answers.get (RoleIndex.resource role node).uri = .ok document)
      (hread : Json.read document = .ok answer) (hconfig : Configures answer members)
      (hsorted : Entries.Sorted stored) (hkubelet : SaysKubelet stored)
      (hothers : ∀ key, key ≠ "kind" → key ≠ "apiVersion" →
        Entries.get? key stored = Entries.get? key members) :
      StoredAnswer answers role node (Json.object stored).compactBytes

/-- The doubles in the answers of nodes are read back from their text. -/
def AnswersReadBack (answers : Answers) (index : RoleIndex) : Prop :=
  ∀ role node document answer, (role, node) ∈ index.pairs →
    answers.get (RoleIndex.resource role node).uri = .ok document →
    Json.read document = .ok answer → DoublesReadBack answer

/-- The body of a URI is the answer for it. -/
private theorem body_plain (h : AnswersBy cluster answers) (uri : String) (state : σ) :
    (Fetch.body cluster .plain uri state).1 =
      match answers.get uri with
      | .error failure => .error (.fetch uri failure)
      | .ok body => .ok body := by
  rw [← h.get uri state, Fetch.body]
  simp only [bind, StateT.bind]
  cases cluster.getRaw uri state with
  | mk answer next => cases answer <;> rfl

/-- What the filter makes of a document is the configuration in it with its kind and version. -/
private theorem storedAnswer_of_leaves (h : AnswersBy cluster answers) {role node : String}
    {body : Bytes} (hleaves : Fetch.Leaves (RoleIndex.resource role node)
      (Fetch.body cluster .plain (RoleIndex.resource role node).uri state).1 body) :
    StoredAnswer answers role node body := by
  rw [body_plain h] at hleaves
  cases hanswer : answers.get (RoleIndex.resource role node).uri with
  | error failure =>
      rw [hanswer] at hleaves
      cases hleaves with
      | marker hmissing => exact .marker hanswer hmissing
  | ok document =>
      rw [hanswer] at hleaves
      cases hleaves with
      | whole hfilter =>
          have hsource : RoleIndex.configFilter ≠ "" := by decide
          exact absurd hfilter hsource
      | filtered _ happly =>
          obtain ⟨answer, members, hread, hconfig, hbody⟩ := applyTo_configFilter happly
          have hsorted := (hconfig.canonical (canonical_of_read hread)).1
          rw [hbody]
          exact .config hanswer hread hconfig ((hsorted.insert _ _).insert _ _)
            (saysKubelet_stamp members) fun _ => get?_stamp

/-- What is stored of the answer of a node is no marker only if it is read back as a kubelet
configuration. -/
private theorem StoredAnswer.exists_read {role node : String} {body : Bytes}
    (h : StoredAnswer answers role node body) (hpair : (role, node) ∈ index.pairs)
    (hdoubles : AnswersReadBack answers index) (hmarker : Outcome.isMarker body = false) :
    ∃ members, Json.read body = .ok (.object members) ∧ SaysKubelet members ∧
      DoublesReadBack (.object members) := by
  cases h with
  | marker _ _ =>
      rw [Outcome.isMarker_marker] at hmarker
      cases hmarker
  | config hanswer hread hconfig hsorted hkubelet hothers =>
      have hmembers := (hconfig.canonical (canonical_of_read hread)).1
      obtain rfl := eq_stamp hmembers hsorted hkubelet hothers
      have hback := hdoubles role node _ _ hpair hanswer hread
      obtain ⟨value, hvalue, hequal, hstored⟩ := exists_read_stamp hread hback hconfig
      obtain ⟨others, rfl, hothers⟩ := hkubelet.of_equal hequal
      exact ⟨others, hvalue, hothers, hstored⟩

/-! ## The artifacts -/

/-- Reconciling the results of an index stores these artifacts. -/
structure ReconcilesTo (index : RoleIndex) (before after : Keyed Bytes)
    (artifacts : List (String × Bytes)) : Prop where
  results : after = before.insertMany artifacts
  /-- A role gets an artifact exactly when a configuration was left for it. -/
  roles : ∀ role, role ≠ reservedRole → '/' ∉ role.toList →
    ((∃ artifact, (roleKey role, artifact) ∈ artifacts) ↔ LeftFor index before role)
  /-- Every artifact is found under the key of its role and says that it is a configuration. -/
  kubelet : ∀ entry ∈ artifacts, after.get? entry.1 = some entry.2 ∧
    (∃ role, entry.1 = roleKey role) ∧
    ∃ members, Json.read entry.2 = .ok (.object members) ∧ SaysKubelet members
  /-- What stands under the key of a role is its artifact, unless the key is that of a node. -/
  found : ∀ role body, '/' ∉ role.toList → (reservedRole, role) ∉ index.pairs →
    after.get? (roleKey role) = some body → (roleKey role, body) ∈ artifacts

/-- What is known after the configurations of an index were fetched. -/
structure Collects (answers : Answers) (index : RoleIndex) (outcome : Outcome) : Prop where
  entries : ∀ key body, outcome.results.get? key = some body →
    ∃ role node, (role, node) ∈ index.pairs ∧ key = nodeKey role node ∧
      StoredAnswer answers role node body
  reconciles : AnswersReadBack answers index →
    ∃ artifacts result, reconcile outcome = .ok result ∧
      ReconcilesTo index outcome.results result.results artifacts

/-- What all configurations of a role say, its artifact says. -/
private theorem IsArtifact.saysKubelet {results : Keyed Bytes} {role : String} {artifact : Bytes}
    {value : Json} (h : IsArtifact results role artifact value)
    (hconfigs : ∀ config, RoleConfig results role config →
      DoublesReadBack config ∧ ∃ members, config = .object members ∧ SaysKubelet members) :
    ∃ members, Json.read artifact = .ok (.object members) ∧ SaysKubelet members := by
  have hkeeps {key text : String} (hmember : ∀ members, SaysKubelet members →
      Entries.get? key members = some (.string text)) :
      member? key value = some (.string text) := by
    obtain ⟨y, hy, hequal⟩ := h.keeps [key] (.string text) trivial fun config hconfig => by
      obtain ⟨_, members, rfl, hkubelet⟩ := hconfigs config hconfig
      exact ⟨.string text, by simp [memberAt?, member?, hmember members hkubelet], equal_self _⟩
    rw [eq_string_of_equal hequal] at hy
    simpa [memberAt?] using hy
  have hkind := hkeeps fun _ => SaysKubelet.kind
  have hversion := hkeeps fun _ => SaysKubelet.apiVersion
  obtain ⟨stored, hstored, hequal⟩ := h.reads fun config hconfig => (hconfigs config hconfig).1
  cases value <;> simp only [member?, reduceCtorEq] at hkind
  next members =>
    have hmembers : SaysKubelet members := ⟨hkind, hversion⟩
    obtain ⟨others, rfl, hothers⟩ := hmembers.of_equal hequal
    exact ⟨others, hstored, hothers⟩

/-! ## What a fetch comes to -/

/-- Every entry is what is stored of the answer of a node of the index. -/
private theorem exists_storedAnswer (hanswers : AnswersBy cluster answers)
    (hfetch : (Fetch.all cluster index.resources state).1 = .ok outcome) {key : String}
    {body : Bytes} (hget : outcome.results.get? key = some body) :
    ∃ role node, (role, node) ∈ index.pairs ∧ key = nodeKey role node ∧
      StoredAnswer answers role node body := by
  obtain ⟨role, node, hpair, hkey, during, hleaves⟩ := exists_pair_of_get? hfetch hget
  exact ⟨role, node, hpair, hkey, storedAnswer_of_leaves hanswers hleaves⟩

/-- The configurations of a role are kubelet configurations. -/
private theorem exists_read_of_nodeBody (hanswers : AnswersBy cluster answers)
    (hfetch : (Fetch.all cluster index.resources state).1 = .ok outcome)
    (hdoubles : AnswersReadBack answers index) {role node : String} {body : Bytes}
    (h : NodeBody outcome.results role node body) :
    ∃ members, Json.read body = .ok (.object members) ∧ SaysKubelet members ∧
      DoublesReadBack (.object members) := by
  obtain ⟨key, _, hget, hmarker⟩ := h
  obtain ⟨other, name, hpair, _, hstored⟩ := exists_storedAnswer hanswers hfetch hget
  exact hstored.exists_read hpair hdoubles hmarker

/-- The key of a role that is no node's key finds the artifact of the role or nothing. -/
private theorem mem_artifacts_of_get?
    (hfetch : (Fetch.all cluster index.resources state).1 = .ok outcome)
    {artifacts : List (String × Bytes)} {warnings : List String}
    (hfold : foldRoles (byRole outcome.results).entries = .ok (artifacts, warnings))
    {role : String} {body : Bytes} (hslash : '/' ∉ role.toList)
    (hpair : (reservedRole, role) ∉ index.pairs)
    (hget : (outcome.results.insertMany artifacts).get? (roleKey role) = some body) :
    (roleKey role, body) ∈ artifacts := by
  by_cases hcollected : Collected outcome.results role
  · obtain ⟨artifact, hmem⟩ := (exists_mem_artifacts_iff hfold).2 hcollected
    rw [get?_insertMany_of_mem hfold hmem, Option.some.injEq] at hget
    rwa [← hget]
  · have hothers : ∀ other, Collected outcome.results other → roleKey role ≠ roleKey other := by
      intro other hother heq
      exact hcollected (roleKey_injective heq ▸ hother)
    rw [get?_insertMany_of_not_collected hfold hothers] at hget
    obtain ⟨other, name, hother, hkey, _⟩ := exists_pair_of_get? hfetch hget
    obtain ⟨rfl, rfl⟩ := eq_of_nodeKey_eq_roleKey hslash hkey.symm
    exact absurd hother hpair

/-- Whatever the nodes of a cluster answer, a fetch of their configurations that succeeds leaves
markers and configurations, and these are reconciled to one configuration for each role. -/
theorem collects_of_fetch (hanswers : AnswersBy cluster answers)
    (hfetch : (Fetch.all cluster (RoleIndex.ofNodes nodes).resources state).1 = .ok outcome) :
    Collects answers (RoleIndex.ofNodes nodes) outcome := by
  refine ⟨fun key body hget => exists_storedAnswer hanswers hfetch hget, fun hdoubles => ?_⟩
  have hobjects : ∀ role node body, role ≠ "" → NodeBody outcome.results role node body →
      ∃ value, Json.read body = .ok value ∧ value.isObject = true := by
    intro role node body _ hbody
    obtain ⟨members, hread, _⟩ := exists_read_of_nodeBody hanswers hfetch hdoubles hbody
    exact ⟨_, hread, rfl⟩
  have hconfigs : ∀ role config, RoleConfig outcome.results role config →
      DoublesReadBack config ∧ ∃ members, config = .object members ∧ SaysKubelet members := by
    rintro role config ⟨node, body, hbody, hread⟩
    obtain ⟨members, hmembers, hkubelet, hback⟩ :=
      exists_read_of_nodeBody hanswers hfetch hdoubles hbody
    rw [hread, Except.ok.injEq] at hmembers
    rw [hmembers]
    exact ⟨hback, members, rfl, hkubelet⟩
  obtain ⟨artifacts, warnings, hfold, hreconcile⟩ := exists_reconcile hobjects
  refine ⟨artifacts, _, hreconcile,
    { results := rfl
      roles := fun role hreserved hslash => ?_
      kubelet := fun entry hmem => ?_
      found := fun role body hslash hpair hget =>
        mem_artifacts_of_get? hfetch hfold hslash hpair hget }⟩
  · rw [exists_mem_artifacts_iff hfold, collected_iff hfetch]
    exact ⟨fun h => h.2.2, fun h => ⟨hreserved, hslash, h⟩⟩
  · obtain ⟨role, _, hkey⟩ := exists_collected_of_mem hfold hmem
    obtain ⟨key, artifact⟩ := entry
    obtain rfl : key = roleKey role := hkey
    obtain ⟨value, hvalue⟩ := isArtifact_of_mem hfold hmem
    exact ⟨get?_insertMany_of_mem hfold hmem, ⟨role, rfl⟩, hvalue.saysKubelet (hconfigs role)⟩

/-! ## The two nodes -/

def sharedAnswers : Answers where
  get := fun uri => .ok (podsAnswer (sharedPods uri)).compactBytes
  page := fun _ _ _ => .ok ⟨[], none⟩

private theorem doublesReadBack_podsAnswer (pods : Nat) : DoublesReadBack (podsAnswer pods) := by
  refine ⟨by decide, ⟨by decide, ?_, trivial⟩, trivial⟩
  rintro x ⟨⟩

private theorem exists_read_podsAnswer {pods : Nat} (h : InRange pods) :
    ∃ answer, Json.read (podsAnswer pods).compactBytes = .ok answer ∧
      equal (podsAnswer pods) answer = true := by
  have hcanonical : Canonical (podsAnswer pods) := by
    refine ⟨List.pairwise_singleton _ _, ⟨List.pairwise_singleton _ _, ?_⟩, trivial⟩
    exact ⟨trivial, trivial⟩
  refine read_compactBytes hcanonical (DoublesReadBack.within (doublesReadBack_podsAnswer pods) ?_)
  exact ⟨by decide, ⟨by decide, h, trivial⟩, trivial⟩

private theorem answersReadBack_shared :
    AnswersReadBack sharedAnswers (RoleIndex.ofNodes sharedNodes) := by
  intro role node document answer _ hanswer hread
  cases hanswer
  have hrange : InRange (sharedPods (RoleIndex.resource role node).uri) := by
    unfold sharedPods
    split <;> exact ⟨by decide, by decide⟩
  obtain ⟨other, hother, hequal⟩ := exists_read_podsAnswer hrange
  rw [hread, Except.ok.injEq] at hother
  exact hother ▸ (doublesReadBack_podsAnswer _).of_equal hequal

theorem collects_of_fetch_shared : ∃ outcome,
    AnswersBy sharedCluster sharedAnswers ∧
      (Fetch.all sharedCluster (RoleIndex.ofNodes sharedNodes).resources ()).1 = .ok outcome ∧
      AnswersReadBack sharedAnswers (RoleIndex.ofNodes sharedNodes) ∧
      Collects sharedAnswers (RoleIndex.ofNodes sharedNodes) outcome := by
  have hanswers : AnswersBy sharedCluster sharedAnswers := ⟨fun _ _ => rfl, fun _ _ _ _ => rfl⟩
  obtain ⟨outcome, _, _, hfetch, _⟩ := exists_run isSome_run?_shared
  exact ⟨outcome, hanswers, hfetch, answersReadBack_shared, collects_of_fetch hanswers hfetch⟩

end Fetched

end ClusterEvidence.Kubelet
