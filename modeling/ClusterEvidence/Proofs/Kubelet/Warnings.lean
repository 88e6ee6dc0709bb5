import ClusterEvidence.Proofs.Kubelet.Reconcile
import ClusterEvidence.Proofs.Text.Order

/-!
# The nodes that are warned about

A node of a role is compared with the baseline of those in front of it, which is what their
configurations have in common: a node that agrees leaves the baseline as it is, and the meet of
equal values is the first of them. So each node is judged by its predecessors alone
(`DivergesAfter`), and the warnings of a role follow its nodes (`Warned`): one node is a step, all
nodes of a role are a run, and the roles come one after another in their order.

A role has no warning as long as the baseline carries the bytes of its first node, which it loses
with the first node that differs and never gets back.

## Main results

* `Warned.foldNode` — what one more node adds to the warnings.
* `warned_foldRole` — the warnings about all nodes of a role.
* `reconcile_warnsExactly` — which nodes a reconciliation warns about, and when a role has none.
-/

namespace ClusterEvidence.Kubelet

open Json

/-! ## What is warned about -/

/-- A node of a role with its difference from what the nodes in front of it have in common. -/
structure Divergence where
  role : String
  node : String
  operations : List Json.Operation

/-- What is said of a divergence: the node and the role by their names, and the difference as it is
written down. -/
def Divergence.warning (found : Divergence) : String :=
  "Kubelet configs for " ++ found.node ++ " are not consistent with role " ++ found.role ++
    ", diff: " ++ patchText found.operations ++ "; only the intersection of " ++ found.role ++
    " KubeletConfigs will be saved."

/-- The nodes of a role in front of a node, with their configurations. -/
structure Preceding (results : Keyed Bytes) (role node : String) (front : List (String × Json)) :
    Prop where
  sorted : Entries.Sorted front
  mem_iff : ∀ other config, (other, config) ∈ front ↔
    other < node ∧ ∃ body, NodeBody results role other body ∧ Json.read body = .ok config

/-- A node whose configuration is not equal to what those in front of it have in common. -/
inductive Diverges (results : Keyed Bytes) : Divergence → Prop where
  | intro {role node : String} {body : Bytes} {config common : Json} {front : List (String × Json)}
      (hrole : role ≠ "") (hbody : NodeBody results role node body)
      (hread : Json.read body = .ok config) (hfront : Preceding results role node front)
      (hcommon : common? (front.map Prod.snd) = some common) (hne : equal common config = false) :
      Diverges results ⟨role, node, difference common config⟩

/-- How the warnings of a reconciliation are related to the results that it started from. -/
structure WarnsExactly (before after : Outcome) : Prop where
  /-- The earlier warnings stay, and behind them there is one for each node that diverges, in the
  order of roles and then of nodes. -/
  warnings : ∃ found : List Divergence,
    after.warnings = before.warnings ++ found.map Divergence.warning ∧
      (found.Pairwise fun d e => Text.PairLt (d.role, d.node) (e.role, e.node)) ∧
      ∀ d, d ∈ found ↔ Diverges before.results d
  /-- Nodes with others in front of them are compared with something. -/
  compared : ∀ role node front, role ≠ "" → Preceding before.results role node front →
    front ≠ [] → ∃ common, common? (front.map Prod.snd) = some common
  /-- A role is not warned about exactly when all its configurations are equal. -/
  silent_iff : ∀ role, role ≠ "" →
    ((∀ d, Diverges before.results d → d.role ≠ role) ↔ Agree before.results role)
  /-- They are all equal exactly when what is stored for the role equals each of them. -/
  agree_iff : ∀ role, Collected before.results role →
    (Agree before.results role ↔
      ∃ artifact stored, after.results.get? (roleKey role) = some artifact ∧
        Json.read artifact = .ok stored ∧
        ∀ config, RoleConfig before.results role config → equal stored config = true)

/-! ## Configurations in their order -/

/-- The nodes with a configuration among bodies, in their order. -/
def configs (seen : List (String × Bytes)) : List (String × Json) :=
  seen.filterMap fun entry =>
    if Outcome.isMarker entry.2 then none
    else (Json.read entry.2).toOption.map fun config => (entry.1, config)

private theorem configs_append (seen others : List (String × Bytes)) :
    configs (seen ++ others) = configs seen ++ configs others :=
  List.filterMap_append

private theorem configs_marker {entry : String × Bytes} (h : Outcome.isMarker entry.2 = true) :
    configs [entry] = [] := by
  simp [configs, h]

private theorem configs_config {entry : String × Bytes} {config : Json}
    (hmarker : Outcome.isMarker entry.2 = false) (hread : Json.read entry.2 = .ok config) :
    configs [entry] = [(entry.1, config)] := by
  simp [configs, hmarker, hread, Except.toOption]

private theorem configs_of_markers {seen : List (String × Bytes)}
    (h : ∀ entry ∈ seen, Outcome.isMarker entry.2 = true) : configs seen = [] := by
  rw [configs, List.filterMap_eq_nil_iff]
  intro entry hentry
  rw [if_pos (h entry hentry)]

private theorem mem_configs_iff {seen : List (String × Bytes)} {node : String} {config : Json} :
    (node, config) ∈ configs seen ↔
      ∃ body, (node, body) ∈ seen ∧ Outcome.isMarker body = false ∧
        Json.read body = .ok config := by
  rw [configs, List.mem_filterMap]
  constructor
  · rintro ⟨⟨other, body⟩, hentry, heq⟩
    dsimp only at heq
    split at heq
    · cases heq
    · next hmarker =>
        obtain ⟨found, hfound, hsame⟩ := Option.map_eq_some_iff.1 heq
        cases hsame
        cases hread : Json.read body with
        | error fault => simp [hread, Except.toOption] at hfound
        | ok value =>
            rw [hread] at hfound
            cases hfound
            exact ⟨body, hentry, Bool.not_eq_true _ ▸ hmarker, hread⟩
  · rintro ⟨body, hentry, hmarker, hread⟩
    exact ⟨(node, body), hentry, by simp [hmarker, hread, Except.toOption]⟩

private theorem sorted_configs {seen : List (String × Bytes)} (h : Entries.Sorted seen) :
    Entries.Sorted (configs seen) := by
  refine List.Pairwise.filterMap _ ?_ h
  intro first second hlt left hleft right hright
  have hname : ∀ (entry : String × Bytes) (named : String × Json),
      (if Outcome.isMarker entry.2 then none
        else (Json.read entry.2).toOption.map fun config => (entry.1, config)) = some named →
      named.1 = entry.1 := by
    intro entry named hnamed
    split at hnamed
    · cases hnamed
    · obtain ⟨config, _, rfl⟩ := Option.map_eq_some_iff.1 hnamed
      rfl
  rw [hname first left hleft, hname second right hright]
  exact hlt

/-! ## Divergences among the nodes of a role -/

/-- A node that differs from what those in front of it have in common. -/
inductive DivergesAfter (role : String) (front : List (String × Bytes)) (entry : String × Bytes) :
    Divergence → Prop where
  | intro {config common : Json} (hmarker : Outcome.isMarker entry.2 = false)
      (hread : Json.read entry.2 = .ok config)
      (hcommon : common? ((configs front).map Prod.snd) = some common)
      (hne : equal common config = false) :
      DivergesAfter role front entry ⟨role, entry.1, difference common config⟩

/-- One of the nodes differs from what those in front of it have in common. -/
def DivergesAmong (role : String) (seen : List (String × Bytes)) (found : Divergence) : Prop :=
  ∃ front entry rest, seen = front ++ entry :: rest ∧ DivergesAfter role front entry found

variable {role : String} {seen front : List (String × Bytes)} {entry : String × Bytes}
  {found : Divergence}

private theorem DivergesAmong.role_eq (h : DivergesAmong role seen found) : found.role = role := by
  obtain ⟨_, _, _, _, hafter⟩ := h
  cases hafter
  rfl

private theorem not_divergesAmong_nil : ¬ DivergesAmong role [] found := by
  rintro ⟨front, entry, rest, hnil, _⟩
  simp at hnil

/-- With one more node, either an earlier one diverges or the new one does. -/
private theorem divergesAmong_concat :
    DivergesAmong role (seen ++ [entry]) found ↔
      DivergesAmong role seen found ∨ DivergesAfter role seen entry found := by
  constructor
  · rintro ⟨front, other, rest, hsplit, hafter⟩
    rcases List.eq_nil_or_concat rest with rfl | ⟨rest, last, rfl⟩
    · obtain ⟨rfl, hentry⟩ := List.append_inj' hsplit rfl
      cases hentry
      exact .inr hafter
    · have hsplit' : seen ++ [entry] = (front ++ other :: rest) ++ [last] := by simpa using hsplit
      obtain ⟨rfl, _⟩ := List.append_inj' hsplit' rfl
      exact .inl ⟨front, other, rest, rfl, hafter⟩
  · rintro (⟨front, other, rest, rfl, hafter⟩ | hafter)
    · exact ⟨front, other, rest ++ [entry], by simp, hafter⟩
    · exact ⟨seen, entry, [], rfl, hafter⟩

/-- A marker does not diverge. -/
private theorem not_divergesAfter_of_marker (h : Outcome.isMarker entry.2 = true) :
    ¬ DivergesAfter role front entry found := by
  rintro ⟨hmarker, _, _, _⟩
  rw [h] at hmarker
  cases hmarker

/-- A node diverges when it is not equal to what those in front of it have in common. -/
private theorem divergesAfter_iff {config common : Json}
    (hmarker : Outcome.isMarker entry.2 = false) (hread : Json.read entry.2 = .ok config)
    (hcommon : common? ((configs front).map Prod.snd) = some common) :
    DivergesAfter role front entry found ↔
      equal common config = false ∧ found = ⟨role, entry.1, difference common config⟩ := by
  constructor
  · rintro ⟨_, hread', hcommon', hne⟩
    rw [hread, Except.ok.injEq] at hread'
    rw [hcommon, Option.some.injEq] at hcommon'
    subst hread' hcommon'
    exact ⟨hne, rfl⟩
  · rintro ⟨hne, rfl⟩
    exact .intro hmarker hread hcommon hne

/-! ## One more node -/

/-- The warnings are those about the nodes that diverge, in the order of the nodes. -/
def Notes (role : String) (seen : List (String × Bytes)) (warnings : List String) : Prop :=
  ∃ found : List Divergence, warnings = found.map Divergence.warning ∧
    (found.map Divergence.node).Sublist (seen.map Prod.fst) ∧
    ∀ d, d ∈ found ↔ DivergesAmong role seen d

/-- A node that does not diverge adds no warning. -/
private theorem Notes.append_silent {warnings : List String} (h : Notes role seen warnings)
    (hsilent : ∀ d, ¬ DivergesAfter role seen entry d) : Notes role (seen ++ [entry]) warnings := by
  obtain ⟨found, hwarnings, hnodes, hmem⟩ := h
  refine ⟨found, hwarnings, ?_, fun d => ?_⟩
  · rw [List.map_append]
    exact hnodes.trans (List.sublist_append_left _ _)
  · rw [divergesAmong_concat, hmem, or_iff_left (hsilent d)]

/-- A node that diverges adds the warning about it. -/
private theorem Notes.append_divergence {warnings : List String} (h : Notes role seen warnings)
    {last : Divergence} (hlast : ∀ d, DivergesAfter role seen entry d ↔ d = last)
    (hnode : last.node = entry.1) : Notes role (seen ++ [entry]) (warnings ++ [last.warning]) := by
  obtain ⟨found, rfl, hnodes, hmem⟩ := h
  refine ⟨found ++ [last], by simp, ?_, fun d => ?_⟩
  · rw [List.map_append, List.map_append, List.map_singleton, List.map_singleton, hnode]
    exact hnodes.append (List.Sublist.refl _)
  · rw [List.mem_append, List.mem_singleton, divergesAmong_concat, hmem, hlast]

/-- What is known of the warnings after some nodes of a role were taken. -/
structure Warned (role : String) (seen : List (String × Bytes))
    (state : Option Baseline × List String) : Prop where
  folded : Folded seen state.1
  /-- The baseline is what the configurations have in common, taken one after another. -/
  common : state.1.map Baseline.value = common? ((configs seen).map Prod.snd)
  /-- There are no warnings as long as the baseline has bytes. -/
  silent : state.2 = [] ↔ ∀ baseline, state.1 = some baseline → baseline.bytes? ≠ none
  notes : Notes role seen state.2

theorem Warned.nil : Warned role [] (none, []) :=
  ⟨.nil, rfl, by simp, [], rfl, by simp, fun d => by simp [not_divergesAmong_nil]⟩

/-- The baseline grows by the meet with one more configuration. -/
private theorem Warned.common_concat {state : Option Baseline × List String}
    (h : Warned role seen state)
    {baseline : Baseline} (hsome : state.1 = some baseline) {config : Json}
    (hmarker : Outcome.isMarker entry.2 = false) (hread : Json.read entry.2 = .ok config) :
    common? ((configs seen).map Prod.snd) = some baseline.value ∧
      common? ((configs (seen ++ [entry])).map Prod.snd) = meet? baseline.value config := by
  have hcommon : common? ((configs seen).map Prod.snd) = some baseline.value := by
    rw [← h.common, hsome]
    rfl
  refine ⟨hcommon, ?_⟩
  rw [configs_append, configs_config hmarker hread, List.map_append]
  exact common?_concat hcommon config

/-- One more node adds a warning exactly when it diverges from those in front of it. -/
theorem Warned.foldNode {state next : Option Baseline × List String} (h : Warned role seen state)
    (hstep : foldNode role state entry = .ok next) : Warned role (seen ++ [entry]) next := by
  have hfolded := h.folded.foldNode hstep
  cases takes_of_foldNode hstep with
  | skips hmarker =>
      refine ⟨hfolded, ?_, h.silent, ?_⟩
      · rw [configs_append, configs_marker hmarker, List.append_nil]
        exact h.common
      · exact h.notes.append_silent fun d => not_divergesAfter_of_marker hmarker
  | @begins value hmarker hread hobject hnone =>
      have hnil : configs seen = [] := configs_of_markers (h.folded.markers hnone)
      have hquiet : state.2 = [] := h.silent.2 (by simp [hnone])
      refine ⟨hfolded, ?_, by simp [hquiet], ?_⟩
      · rw [configs_append, hnil, configs_config hmarker hread]
        rfl
      · apply h.notes.append_silent
        rintro d ⟨_, _, hcommon, _⟩
        simp [hnil, common?] at hcommon
  | @agrees value baseline hmarker hread hobject hsome hdifference =>
      have hcanonical := (h.folded.baseline baseline hsome).canonical
      have hequal : equal baseline.value value = true :=
        (difference_eq_nil_iff hcanonical (canonical_of_read hread)).1 hdifference
      obtain ⟨hbefore, hafter⟩ := h.common_concat hsome hmarker hread
      refine ⟨hfolded, ?_, h.silent, ?_⟩
      · rw [hafter, meet?_of_equal hcanonical hequal, hsome]
        rfl
      · apply h.notes.append_silent
        intro d hd
        have hne := ((divergesAfter_iff hmarker hread hbefore).1 hd).1
        rw [hequal] at hne
        cases hne
  | @differs value baseline hmarker hread hobject hsome hdifference =>
      have hbaseline := h.folded.baseline baseline hsome
      have hne : equal baseline.value value = false := by
        rw [← Bool.not_eq_true]
        exact mt (difference_eq_nil_iff hbaseline.canonical (canonical_of_read hread)).2 hdifference
      obtain ⟨hbefore, hafter⟩ := h.common_concat hsome hmarker hread
      obtain ⟨common, hmeet, _⟩ := exists_meet?_of_isObject hbaseline.isObject hobject
      have hlast : ∀ d, DivergesAfter role seen entry d ↔
          d = ⟨role, entry.1, difference baseline.value value⟩ := by
        intro d
        rw [divergesAfter_iff hmarker hread hbefore]
        exact and_iff_right hne
      have hnotes := h.notes.append_divergence hlast rfl
      refine ⟨hfolded, ?_, by simp, hnotes⟩
      rw [hafter, hmeet]
      rfl

/-! ## All nodes of a role -/

/-- The warnings about all nodes of a role. -/
theorem warned_foldRole {nodes : Keyed Bytes} {state : Option Baseline × List String}
    (h : foldRole role nodes = .ok state) : Warned role nodes.entries state :=
  foldlM_preserves (P := Warned role) (fun _ _ _ _ hseen hstep => hseen.foldNode hstep) .nil h

/-- A role without warnings is one whose configurations are all equal. -/
private theorem Warned.eq_nil_iff {state : Option Baseline × List String}
    (h : Warned role seen state) :
    state.2 = [] ↔ ∀ one other, Config seen one → Config seen other → equal one other = true := by
  rw [h.silent]
  constructor
  · intro hbytes one other hone hother
    cases hstate : state.1 with
    | none => exact absurd hone (not_config_of_markers (h.folded.markers hstate) one)
    | some baseline =>
        obtain ⟨bytes, hsome⟩ := Option.ne_none_iff_exists'.1 (hbytes baseline hstate)
        obtain ⟨_, _, hagree⟩ := (h.folded.baseline baseline hstate).agreed bytes hsome
        exact equal_trans (equal_symm (hagree one hone)) (hagree other hother)
  · intro hagree baseline hstate hnone
    obtain ⟨one, other, hone, hother, hne⟩ := (h.folded.baseline baseline hstate).diverged hnone
    rw [hagree one other hone hother] at hne
    cases hne

/-! ## The nodes of a group -/

variable {results : Keyed Bytes} {nodes : Keyed Bytes} {node : String}

/-- No two lists of configurations precede a node. -/
theorem Preceding.unique {first second : List (String × Json)}
    (h : Preceding results role node first) (h' : Preceding results role node second) :
    first = second := by
  refine h.sorted.ext h'.sorted fun key => Option.ext fun config => ?_
  rw [h.sorted.get?_eq_some_iff, h'.sorted.get?_eq_some_iff, h.mem_iff, h'.mem_iff]

/-- The configurations in front of a node in its group are those that precede it. -/
private theorem preceding_configs (h : (role, nodes) ∈ (byRole results).entries) (hrole : role ≠ "")
    {body : Bytes} {rest : List (String × Bytes)}
    (hsplit : nodes.entries = front ++ (node, body) :: rest) :
    Preceding results role node (configs front) := by
  have hsorted := nodes.sorted
  rw [hsplit] at hsorted
  obtain ⟨hfront, hrest, hbefore⟩ := List.pairwise_append.1 hsorted
  refine ⟨sorted_configs hfront, fun other config => ?_⟩
  rw [mem_configs_iff]
  constructor
  · rintro ⟨found, hmem, hmarker, hread⟩
    have hentry : (other, found) ∈ nodes.entries := by
      rw [hsplit]
      exact List.mem_append_left _ hmem
    exact ⟨hbefore _ hmem _ List.mem_cons_self, found,
      ((noMarker_mem_group_iff h).1 ⟨hentry, hmarker⟩).2, hread⟩
  · rintro ⟨hlt, found, hbody, hread⟩
    obtain ⟨hentry, hmarker⟩ := (noMarker_mem_group_iff h).2 ⟨hrole, hbody⟩
    refine ⟨found, ?_, hmarker, hread⟩
    rw [hsplit] at hentry
    rcases List.mem_append.1 hentry with hentry | hentry
    · exact hentry
    · -- The node itself and those behind it do not come before it.
      rcases List.mem_cons.1 hentry with heq | hentry
      · cases heq
        exact absurd hlt (String.lt_irrefl _)
      · have hgt : node < other := (List.pairwise_cons.1 hrest).1 _ hentry
        exact absurd (String.lt_trans hlt hgt) (String.lt_irrefl _)

/-- The divergences in the group of a role are those of the role. -/
private theorem divergesAmong_group_iff (h : (role, nodes) ∈ (byRole results).entries) :
    DivergesAmong role nodes.entries found ↔ Diverges results found ∧ found.role = role := by
  constructor
  · intro hamong
    refine ⟨?_, hamong.role_eq⟩
    obtain ⟨front, ⟨node, body⟩, rest, hsplit, ⟨hmarker, hread, hcommon, hne⟩⟩ := hamong
    have hentry : (node, body) ∈ nodes.entries := by simp [hsplit]
    obtain ⟨hrole, hbody⟩ := (noMarker_mem_group_iff h).1 ⟨hentry, hmarker⟩
    exact .intro hrole hbody hread (preceding_configs h hrole hsplit) hcommon hne
  · rintro ⟨⟨hrole, hbody, hread, hfront, hcommon, hne⟩, rfl⟩
    obtain ⟨hentry, hmarker⟩ := (noMarker_mem_group_iff h).2 ⟨hrole, hbody⟩
    obtain ⟨front, rest, hsplit⟩ := List.append_of_mem hentry
    rw [hfront.unique (preceding_configs h hrole hsplit)] at hcommon
    exact ⟨front, _, rest, hsplit, .intro hmarker hread hcommon hne⟩

/-! ## All roles -/

/-- The warnings about all roles, one role after another. -/
private theorem exists_divergences {roles : List (String × Keyed Bytes)} {taken : Taken}
    (h : foldRoles roles = .ok taken) (hsorted : Entries.Sorted roles) :
    ∃ found : List Divergence, taken.2 = found.map Divergence.warning ∧
      (found.Pairwise fun d e => Text.PairLt (d.role, d.node) (e.role, e.node)) ∧
      ∀ d, d ∈ found ↔ ∃ role nodes, (role, nodes) ∈ roles ∧
        DivergesAmong role nodes.entries d := by
  induction roles generalizing taken with
  | nil =>
      cases h
      exact ⟨[], rfl, .nil, by simp⟩
  | cons first roles ih =>
      obtain ⟨role, nodes⟩ := first
      obtain ⟨hfirst, hrest⟩ := List.pairwise_cons.1 hsorted
      obtain ⟨baseline?, own, others, hfold, hothers, rfl⟩ := foldRoles_cons_eq_ok h
      obtain ⟨mine, hown, hnodes, hmine⟩ := (warned_foldRole hfold).notes
      obtain ⟨later, hlater, hpairs, hmem⟩ := ih hothers hrest
      refine ⟨mine ++ later, ?_, List.pairwise_append.2 ⟨?_, hpairs, ?_⟩, fun d => ?_⟩
      · show own ++ others.2 = _
        rw [List.map_append, ← hlater, ← hown]
      · -- Within the role the order is that of the nodes.
        have hnames : (mine.map Divergence.node).Pairwise (· < ·) :=
          List.Pairwise.sublist hnodes (List.pairwise_map.2 nodes.sorted)
        refine (List.pairwise_map.1 hnames).imp_of_mem fun {d e} hd he hlt => ?_
        rw [Text.pairLt_iff, ((hmine d).1 hd).role_eq, ((hmine e).1 he).role_eq]
        exact .inr ⟨rfl, hlt⟩
      · intro d hd e he
        obtain ⟨other, names, hgroup, hamong⟩ := (hmem e).1 he
        rw [Text.pairLt_iff, ((hmine d).1 hd).role_eq, hamong.role_eq]
        exact .inl (hfirst _ hgroup)
      · rw [List.mem_append, hmine, hmem]
        constructor
        · rintro (hamong | ⟨other, names, hgroup, hamong⟩)
          · exact ⟨role, nodes, List.mem_cons_self, hamong⟩
          · exact ⟨other, names, List.mem_cons_of_mem _ hgroup, hamong⟩
        · rintro ⟨other, names, hgroup, hamong⟩
          rcases List.mem_cons.1 hgroup with heq | hgroup
          · cases heq
            exact .inl hamong
          · exact .inr ⟨other, names, hgroup, hamong⟩

/-- A node that diverges is in the group of its role. -/
private theorem Diverges.exists_group (h : Diverges results found) :
    ∃ nodes, (found.role, nodes) ∈ (byRole results).entries := by
  obtain ⟨hrole, hbody, _, _, _, _⟩ := h
  exact Kubelet.exists_group hrole hbody

/-- A role without a divergence is one whose configurations are all equal. -/
private theorem silent_iff_agree {taken : Taken}
    (h : foldRoles (byRole results).entries = .ok taken)
    (hrole : role ≠ "") : (∀ d, Diverges results d → d.role ≠ role) ↔ Agree results role := by
  by_cases hgroup : ∃ nodes, (role, nodes) ∈ (byRole results).entries
  · obtain ⟨nodes, hgroup⟩ := hgroup
    obtain ⟨baseline?, own, hfold, _⟩ := (foldRoles_eq_ok h).1 role nodes hgroup
    have hwarned := warned_foldRole hfold
    obtain ⟨mine, hown, _, hmine⟩ := hwarned.notes
    have hnil := hwarned.eq_nil_iff
    rw [config_group hgroup hrole] at hnil
    rw [Agree, ← hnil, hown, List.map_eq_nil_iff, List.eq_nil_iff_forall_not_mem]
    refine forall_congr' fun d => ?_
    rw [hmine, divergesAmong_group_iff hgroup, not_and]
  · refine iff_of_true (fun d hd heq => ?_) fun one other hone _ => ?_
    · obtain ⟨nodes, hnodes⟩ := hd.exists_group
      exact hgroup ⟨nodes, heq ▸ hnodes⟩
    · obtain ⟨node, body, hbody, _⟩ := hone
      exact absurd (exists_group hrole hbody) hgroup

/-- The configurations of a role are all equal exactly when what is stored equals each of them. -/
private theorem agree_iff_equal_artifact {outcome result : Outcome}
    (h : reconcile outcome = .ok result) (hcollected : Collected outcome.results role) :
    Agree outcome.results role ↔
      ∃ artifact stored, result.results.get? (roleKey role) = some artifact ∧
        Json.read artifact = .ok stored ∧
        ∀ config, RoleConfig outcome.results role config → equal stored config = true := by
  constructor
  · intro hagree
    obtain ⟨value, artifact, hget, hartifact⟩ := (reconciled h).artifact role hcollected
    obtain ⟨⟨node, hbody, _⟩, hread⟩ := hartifact.agreed hagree
    exact ⟨artifact, value, hget, hread, fun config hconfig =>
      hagree value config ⟨node, artifact, hbody, hread⟩ hconfig⟩
  · rintro ⟨artifact, stored, _, _, hall⟩ one other hone hother
    exact equal_trans (equal_symm (hall one hone)) (hall other hother)

/-- The warnings of a successful reconciliation are those about the nodes that diverge. -/
theorem reconcile_warnsExactly {outcome result : Outcome} (h : reconcile outcome = .ok result) :
    WarnsExactly outcome result := by
  obtain ⟨artifacts, warnings, hfold, hresult⟩ := exists_artifacts_of_reconcile h
  obtain ⟨found, hwarnings, hpairs, hmem⟩ :=
    exists_divergences hfold (byRole outcome.results).sorted
  refine
    { warnings := ⟨found, ?_, hpairs, fun d => ?_⟩
      compared := fun role node front hrole hfront hne => ?_
      silent_iff := fun role hrole => silent_iff_agree hfold hrole
      agree_iff := fun role hcollected => agree_iff_equal_artifact h hcollected }
  · rw [hresult, ← hwarnings]
  · rw [hmem]
    constructor
    · rintro ⟨role, nodes, hgroup, hamong⟩
      exact ((divergesAmong_group_iff hgroup).1 hamong).1
    · intro hd
      obtain ⟨nodes, hgroup⟩ := hd.exists_group
      exact ⟨d.role, nodes, hgroup, (divergesAmong_group_iff hgroup).2 ⟨hd, rfl⟩⟩
  · have hobjects : ∀ value ∈ front.map Prod.snd, value.isObject = true := by
      intro value hvalue
      obtain ⟨⟨other, config⟩, hentry, rfl⟩ := List.mem_map.1 hvalue
      obtain ⟨_, body, hbody, hread⟩ := (hfront.mem_iff other config).1 hentry
      obtain ⟨found, hfound, hobject⟩ := (reconciled h).configs role other body hrole hbody
      rw [hread, Except.ok.injEq] at hfound
      exact hfound ▸ hobject
    have hnonempty : front.map Prod.snd ≠ [] := by simpa using hne
    obtain ⟨common, hcommon, _⟩ := exists_common?_of_isObject hnonempty hobjects
    exact ⟨common, hcommon⟩

theorem reconcile_warnsExactly_ports : ∃ result, reconcile portOutcome = .ok result ∧
    WarnsExactly portOutcome result := by
  obtain ⟨result, h⟩ := exists_reconcile_ports
  exact ⟨result, h, reconcile_warnsExactly h⟩

end ClusterEvidence.Kubelet
