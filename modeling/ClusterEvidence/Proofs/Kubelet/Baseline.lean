import ClusterEvidence.Kubelet.Reconcile
import ClusterEvidence.Proofs.Json.Difference
import ClusterEvidence.Proofs.Json.RoundTrip
import ClusterEvidence.Proofs.Traverse

/-!
# The baseline of a role

The nodes of a role are taken one after another. The baseline stands for all that were taken
(`IsBaseline`): its value is their meet, and while it carries bytes these are the body of the first
node that is no marker, with a value that equals every other one. One node keeps this
(`Folded.foldNode`), so all nodes of the role do (`folded_foldRole`).

## Main results

* `takes_of_foldNode` — what one more node can do at all.
* `Folded.foldNode` — what one more node does to the baseline.
* `folded_foldRole` — what the baseline is after all nodes of a role.
-/

namespace ClusterEvidence.Kubelet

open Json

/-! ## Configurations among bodies -/

/-- The value of a configuration among the bodies of nodes, which is that of a body that is no
marker. -/
def Config (seen : List (String × Bytes)) (value : Json) : Prop :=
  ∃ entry ∈ seen, Outcome.isMarker entry.2 = false ∧ Json.read entry.2 = .ok value

private theorem config_append_marker {seen : List (String × Bytes)} {entry : String × Bytes}
    (h : Outcome.isMarker entry.2 = true) : Config (seen ++ [entry]) = Config seen := by
  funext value
  simp [Config, or_and_right, exists_or, h]

theorem config_append {seen : List (String × Bytes)} {entry : String × Bytes} {value : Json}
    (hmarker : Outcome.isMarker entry.2 = false) (hread : Json.read entry.2 = .ok value) :
    Config (seen ++ [entry]) = fun other => Config seen other ∨ other = value := by
  funext other
  simp only [Config, List.mem_append, List.mem_singleton, or_and_right, exists_or, exists_eq_left,
    hmarker, hread, Except.ok.injEq, true_and]
  exact propext (or_congr Iff.rfl eq_comm)

/-- Among markers there is no configuration. -/
theorem not_config_of_markers {seen : List (String × Bytes)}
    (h : ∀ entry ∈ seen, Outcome.isMarker entry.2 = true) (value : Json) : ¬ Config seen value := by
  rintro ⟨entry, hentry, hmarker, _⟩
  simp [h entry hentry] at hmarker

/-- A configuration that is accepted is a JSON object. -/
private theorem readConfig_eq_ok {node : String} {body : Bytes} {value : Json}
    (h : readConfig node body = .ok value) :
    Json.read body = .ok value ∧ value.isObject = true := by
  unfold readConfig at h
  split at h
  · cases h
  · next found hread =>
      split at h
      · next hobject =>
          cases h
          exact ⟨hread, hobject⟩
      · cases h

/-! ## What a baseline stands for -/

/-- A body that is no marker and has only markers in front of it. -/
structure IsFirst (seen : List (String × Bytes)) (node : String) (body : Bytes) : Prop where
  noMarker : Outcome.isMarker body = false
  behind : ∃ before after, seen = before ++ (node, body) :: after ∧
    ∀ entry ∈ before, Outcome.isMarker entry.2 = true

theorem IsFirst.mem {seen : List (String × Bytes)} {node : String} {body : Bytes}
    (h : IsFirst seen node body) : (node, body) ∈ seen := by
  obtain ⟨before, after, rfl, _⟩ := h.behind
  simp

theorem IsFirst.append {seen : List (String × Bytes)} {node : String} {body : Bytes}
    (h : IsFirst seen node body) (entry : String × Bytes) :
    IsFirst (seen ++ [entry]) node body := by
  obtain ⟨before, after, rfl, hbefore⟩ := h.behind
  exact ⟨h.noMarker, before, after ++ [entry], by simp, hbefore⟩

/-- The first of sorted nodes has the least name. -/
theorem IsFirst.le {seen : List (String × Bytes)} {node : String} {body : Bytes}
    (h : IsFirst seen node body) (hsorted : Entries.Sorted seen) {entry : String × Bytes}
    (hentry : entry ∈ seen) (hmarker : Outcome.isMarker entry.2 = false) : node ≤ entry.1 := by
  obtain ⟨before, after, rfl, hbefore⟩ := h.behind
  obtain ⟨_, hrest, _⟩ := List.pairwise_append.1 hsorted
  rcases List.mem_append.1 hentry with hentry | hentry
  · simp [hbefore entry hentry] at hmarker
  · rcases List.mem_cons.1 hentry with rfl | hentry
    · exact String.le_refl _
    · exact String.not_lt.1 fun hlt =>
        String.lt_irrefl _ (String.lt_trans hlt ((List.pairwise_cons.1 hrest).1 entry hentry))

/-- What a baseline says about the nodes that were taken. -/
structure IsBaseline (seen : List (String × Bytes)) (baseline : Baseline) : Prop where
  meet : IsMeet (Config seen) baseline.value
  canonical : Canonical baseline.value
  isObject : baseline.value.isObject = true
  /-- The value is within the bounds of all configurations. -/
  within : ∀ p, (∀ config, Config seen config → Within p maxDepth config) →
    Within p maxDepth baseline.value
  /-- While there are bytes they are those of the first node, and all nodes agree. -/
  agreed : ∀ bytes, baseline.bytes? = some bytes →
    (∃ node, IsFirst seen node bytes) ∧ Json.read bytes = .ok baseline.value ∧
      ∀ config, Config seen config → equal baseline.value config = true
  /-- Without bytes some nodes do not agree. -/
  diverged : baseline.bytes? = none →
    ∃ one other, Config seen one ∧ Config seen other ∧ equal one other = false

/-- What is known after some nodes of a role were taken. -/
structure Folded (seen : List (String × Bytes)) (state : Option Baseline) : Prop where
  /-- Every body that is no marker is a JSON object. -/
  readable : ∀ entry ∈ seen, Outcome.isMarker entry.2 = false →
    ∃ value, Json.read entry.2 = .ok value ∧ value.isObject = true
  /-- There is no baseline as long as there were only markers. -/
  markers : state = none → ∀ entry ∈ seen, Outcome.isMarker entry.2 = true
  baseline : ∀ baseline, state = some baseline → IsBaseline seen baseline

theorem Folded.nil : Folded [] none :=
  ⟨by simp, by simp, by simp⟩

/-! ## One more node -/

namespace IsBaseline

variable {seen : List (String × Bytes)} {baseline : Baseline} {entry : String × Bytes}
  {value : Json}

/-- A marker says nothing about the nodes. -/
private theorem append_marker (h : IsBaseline seen baseline)
    (hmarker : Outcome.isMarker entry.2 = true) :
    IsBaseline (seen ++ [entry]) baseline := by
  refine ⟨?_, h.canonical, h.isObject, ?_, fun bytes hbytes => ?_, ?_⟩
  · rw [config_append_marker hmarker]
    exact h.meet
  · rw [config_append_marker hmarker]
    exact h.within
  · obtain ⟨⟨node, hfirst⟩, hread, hagree⟩ := h.agreed bytes hbytes
    rw [config_append_marker hmarker]
    exact ⟨⟨node, hfirst.append entry⟩, hread, hagree⟩
  · rw [config_append_marker hmarker]
    exact h.diverged

/-- The first configuration is the baseline. -/
private theorem first (hmarkers : ∀ entry ∈ seen, Outcome.isMarker entry.2 = true)
    (hmarker : Outcome.isMarker entry.2 = false) (hread : Json.read entry.2 = .ok value)
    (hobject : value.isObject = true) :
    IsBaseline (seen ++ [entry]) ⟨value, some entry.2⟩ := by
  have hequal : ∀ config, Config (seen ++ [entry]) config → equal value config = true := by
    intro config hconfig
    rw [config_append hmarker hread] at hconfig
    rcases hconfig with hconfig | rfl
    · exact absurd hconfig (not_config_of_markers hmarkers config)
    · exact equal_self config
  have hself : Config (seen ++ [entry]) value := by
    rw [config_append hmarker hread]
    exact .inr rfl
  refine ⟨.of_equal hself hequal, canonical_of_read hread, hobject, fun p hall => hall value hself,
    fun bytes hbytes => ?_, by simp⟩
  · cases hbytes
    exact ⟨⟨entry.1, hmarker, seen, [], rfl, hmarkers⟩, hread, hequal⟩

/-- A configuration that equals the baseline leaves it as it is. -/
private theorem append_equal (h : IsBaseline seen baseline)
    (hmarker : Outcome.isMarker entry.2 = false)
    (hread : Json.read entry.2 = .ok value) (heq : equal baseline.value value = true) :
    IsBaseline (seen ++ [entry]) baseline := by
  refine ⟨?_, h.canonical, h.isObject, fun p hall => ?_, fun bytes hbytes => ?_, fun hnone => ?_⟩
  · rw [config_append hmarker hread]
    exact h.meet.step_of_equal heq
  · rw [config_append hmarker hread] at hall
    exact h.within p fun config hconfig => hall config (.inl hconfig)
  · obtain ⟨⟨node, hfirst⟩, hbody, hagree⟩ := h.agreed bytes hbytes
    rw [config_append hmarker hread]
    refine ⟨⟨node, hfirst.append entry⟩, hbody, fun config hconfig => ?_⟩
    rcases hconfig with hconfig | rfl
    · exact hagree config hconfig
    · exact heq
  · obtain ⟨one, other, hone, hother, hne⟩ := h.diverged hnone
    rw [config_append hmarker hread]
    exact ⟨one, other, .inl hone, .inl hother, hne⟩

/-- A configuration that differs leaves the meet of both. -/
private theorem append_different (h : IsBaseline seen baseline)
    (hmarker : Outcome.isMarker entry.2 = false) (hread : Json.read entry.2 = .ok value)
    (hobject : value.isObject = true) (hne : equal baseline.value value = false) :
    IsBaseline (seen ++ [entry]) ⟨(meet? baseline.value value).getD .null, none⟩ := by
  obtain ⟨common, hmeet, hcommon⟩ := exists_meet?_of_isObject h.isObject hobject
  rw [hmeet, Option.getD_some]
  refine ⟨?_, canonical_of_meet? h.canonical hmeet, hcommon, fun p hall => ?_, by simp,
    fun _ => ?_⟩
  · rw [config_append hmarker hread]
    exact h.meet.step h.canonical hmeet
  · rw [config_append hmarker hread] at hall
    have hbaseline := h.within p fun config hconfig => hall config (.inl hconfig)
    exact within_of_meet? hbaseline hmeet
  · rw [config_append hmarker hread]
    cases hbytes : baseline.bytes? with
    | none =>
        obtain ⟨one, other, hone, hother, hne⟩ := h.diverged hbytes
        exact ⟨one, other, .inl hone, .inl hother, hne⟩
    | some bytes =>
        -- While all agree the baseline is itself a configuration.
        obtain ⟨⟨node, hfirst⟩, hbody, _⟩ := h.agreed bytes hbytes
        exact ⟨baseline.value, value, .inl ⟨_, hfirst.mem, hfirst.noMarker, hbody⟩, .inr rfl, hne⟩

/-- What is stored for a baseline is a JSON text of its value, as far as doubles are read back. -/
theorem exists_read_body (h : IsBaseline seen baseline)
    (hdoubles : ∀ config, Config seen config → DoublesReadBack config) :
    ∃ stored, Json.read baseline.body = .ok stored ∧ equal baseline.value stored = true := by
  cases hbytes : baseline.bytes? with
  | some bytes =>
      have hbody : baseline.body = bytes := by simp [Baseline.body, hbytes]
      rw [hbody]
      exact ⟨baseline.value, (h.agreed bytes hbytes).2.1, equal_self _⟩
  | none =>
      have hbody : baseline.body = baseline.value.compactBytes := by simp [Baseline.body, hbytes]
      have hfits : ∀ config, Config seen config → Within Number.Fits maxDepth config := by
        rintro config ⟨_, _, _, hread⟩
        exact within_of_read hread
      have hback : DoublesReadBack baseline.value := h.within _ hdoubles
      rw [hbody]
      exact read_compactBytes h.canonical (hback.within (h.within _ hfits))

end IsBaseline

/-- What taking one more node of a role can do to the baseline and the warnings. -/
inductive Takes (role : String) (state : Option Baseline × List String) (entry : String × Bytes) :
    Option Baseline × List String → Prop where
  /-- A marker is skipped. -/
  | skips (hmarker : Outcome.isMarker entry.2 = true) : Takes role state entry state
  /-- The first configuration is the baseline. -/
  | begins {value : Json} (hmarker : Outcome.isMarker entry.2 = false)
      (hread : Json.read entry.2 = .ok value) (hobject : value.isObject = true)
      (hnone : state.1 = none) :
      Takes role state entry (some ⟨value, some entry.2⟩, state.2)
  /-- A configuration without a difference changes nothing. -/
  | agrees {value : Json} {baseline : Baseline} (hmarker : Outcome.isMarker entry.2 = false)
      (hread : Json.read entry.2 = .ok value) (hobject : value.isObject = true)
      (hsome : state.1 = some baseline) (hdifference : difference baseline.value value = []) :
      Takes role state entry state
  /-- One with a difference leaves the meet and is noted. -/
  | differs {value : Json} {baseline : Baseline} (hmarker : Outcome.isMarker entry.2 = false)
      (hread : Json.read entry.2 = .ok value) (hobject : value.isObject = true)
      (hsome : state.1 = some baseline) (hdifference : difference baseline.value value ≠ []) :
      Takes role state entry (some ⟨(meet? baseline.value value).getD .null, none⟩,
        state.2 ++ [divergence role entry.1 (difference baseline.value value)])

theorem takes_of_foldNode {role : String} {entry : String × Bytes}
    {state next : Option Baseline × List String} (h : foldNode role state entry = .ok next) :
    Takes role state entry next := by
  unfold foldNode at h
  split at h
  · next hmarker =>
      cases h
      exact .skips hmarker
  · next hmarker =>
      rw [Bool.not_eq_true] at hmarker
      split at h
      · cases h
      · next value hconfig =>
          obtain ⟨hread, hobject⟩ := readConfig_eq_ok hconfig
          split at h
          · next hnone =>
              cases h
              exact .begins hmarker hread hobject hnone
          · next baseline hsome =>
              split at h
              · next hdifference =>
                  cases h
                  exact .agrees hmarker hread hobject hsome hdifference
              · next hdifference =>
                  cases h
                  exact .differs hmarker hread hobject hsome hdifference

namespace Folded

variable {seen : List (String × Bytes)} {entry : String × Bytes} {state next : Option Baseline}
  {value : Json}

private theorem append_marker (h : Folded seen state) (hmarker : Outcome.isMarker entry.2 = true) :
    Folded (seen ++ [entry]) state := by
  refine ⟨fun other hother hno => ?_, fun hnone other hother => ?_, fun baseline hbaseline => ?_⟩
  · rcases List.mem_append.1 hother with hother | hother
    · exact h.readable other hother hno
    · rw [List.mem_singleton.1 hother, hmarker] at hno
      cases hno
  · rcases List.mem_append.1 hother with hother | hother
    · exact h.markers hnone other hother
    · rw [List.mem_singleton.1 hother, hmarker]
  · exact (h.baseline baseline hbaseline).append_marker hmarker

private theorem append_config (h : Folded seen state) (hread : Json.read entry.2 = .ok value)
    (hobject : value.isObject = true) {baseline : Baseline}
    (hbaseline : IsBaseline (seen ++ [entry]) baseline) :
    Folded (seen ++ [entry]) (some baseline) := by
  refine ⟨fun other hother hno => ?_, by simp, fun found hfound => ?_⟩
  · rcases List.mem_append.1 hother with hother | hother
    · exact h.readable other hother hno
    · rw [List.mem_singleton.1 hother]
      exact ⟨value, hread, hobject⟩
  · cases hfound
    exact hbaseline

end Folded

/-- One more node is taken into account. -/
theorem Folded.foldNode {role : String} {seen : List (String × Bytes)} {entry : String × Bytes}
    {state next : Option Baseline × List String} (h : Folded seen state.1)
    (hstep : foldNode role state entry = .ok next) : Folded (seen ++ [entry]) next.1 := by
  cases takes_of_foldNode hstep with
  | skips hmarker => exact h.append_marker hmarker
  | begins hmarker hread hobject hnone =>
      exact h.append_config hread hobject (.first (h.markers hnone) hmarker hread hobject)
  | agrees hmarker hread hobject hsome hdifference =>
      have hbaseline := h.baseline _ hsome
      have hnil := difference_eq_nil_iff hbaseline.canonical (canonical_of_read hread)
      rw [hsome]
      exact h.append_config hread hobject
        (hbaseline.append_equal hmarker hread (hnil.1 hdifference))
  | differs hmarker hread hobject hsome hdifference =>
      have hbaseline := h.baseline _ hsome
      have hnil := difference_eq_nil_iff hbaseline.canonical (canonical_of_read hread)
      exact h.append_config hread hobject
        (hbaseline.append_different hmarker hread hobject
          (Bool.not_eq_true _ ▸ mt hnil.2 hdifference))

/-! ## All nodes of a role -/

theorem Folded.foldlM {role : String} {seen rest : List (String × Bytes)}
    {state last : Option Baseline × List String} (h : Folded seen state.1)
    (hrun : rest.foldlM (Kubelet.foldNode role) state = .ok last) :
    Folded (seen ++ rest) last.1 :=
  foldlM_preserves (P := fun seen state => Folded seen state.1)
    (fun _ _ _ _ hseen hstep => hseen.foldNode hstep) h hrun

/-- After all nodes of a role the baseline stands for all of them. -/
theorem folded_foldRole {role : String} {nodes : Keyed Bytes} {baseline? : Option Baseline}
    {warnings : List String} (h : foldRole role nodes = .ok (baseline?, warnings)) :
    Folded nodes.entries baseline? := by
  have hstart : Folded [] ((none, []) : Option Baseline × List String).1 := .nil
  exact hstart.foldlM h

end ClusterEvidence.Kubelet
