import ClusterEvidence.Collection
import ClusterEvidence.Proofs.Fetch.Run
import ClusterEvidence.Proofs.Fetch.Source
import ClusterEvidence.Proofs.Kubelet.Reconcile
import ClusterEvidence.Proofs.Save.Results

/-!
# A run as a whole

A run goes through its steps until one of them fails. What it has got before it saves is a relation
with one case for each step that can be the last (`Gathers`), and saving is the only step behind it
(`Ends`). So the files are as they were unless everything was collected, and the cluster is asked
nothing after the fetch.

## Main results

* `collect_eq_iff`, `run_eq_iff` — the ways in which a run ends, each with the error of the step
  that ended it, the files and the state of the cluster.
* `exists_gathers_of_files_ne` — a run that changes a file has collected everything, and none of its
  keys is refused.
* `extends_run` — no run removes a directory or a file.
* `run_logging` — the requests of a run, in their order.
* `exists_source_of_run` — every result of a run was left by a discovered resource, or is the
  artifact of a role.
* `readFile_of_run` — the results of a run without warnings are read back from an empty directory.
-/

namespace ClusterEvidence.Config

open Cluster Fetch

variable {σ : Type} {config : Config} {cluster : Cluster σ} {files after : FileSystem}
  {state next : σ} {collection : Collection} {result : Except Error Collection}

/-! ## The ways in which a run ends -/

/-- What is found out with some content when the cluster lists some nodes. -/
def discovered (config : Config) (content : LoadedContent) (nodes : List Node) : Discovery :=
  .assemble (.ofNodes nodes)
    (Resolution.resolve content.benchmark content.tailoring? config.profile) config.extraUris

/-- The steps before saving, up to the last one that is taken. -/
inductive Gathers (config : Config) (cluster : Cluster σ) (files : FileSystem) (state : σ) :
    Except Error Collection → σ → Prop where
  /-- Without content nothing is asked of the cluster. -/
  | noContent {e : Error} (h : config.loadContent files = .error e) :
      Gathers config cluster files state (.error e) state
  | noNodes {content : LoadedContent} {failure : Failure} {next : σ}
      (hload : config.loadContent files = .ok content)
      (h : cluster.listNodes state = (.error failure, next)) :
      Gathers config cluster files state (.error (.fetch "/api/v1/nodes" failure)) next
  | notFetched {content : LoadedContent} {nodes : List Node} {middle next : σ} {e : Error}
      (hload : config.loadContent files = .ok content)
      (hnodes : cluster.listNodes state = (.ok nodes, middle))
      (h : Fetch.all cluster (config.discovered content nodes).resources middle =
        (.error e, next)) :
      Gathers config cluster files state (.error e) next
  | notReconciled {content : LoadedContent} {nodes : List Node} {middle next : σ}
      {fetched : Outcome} {e : Error}
      (hload : config.loadContent files = .ok content)
      (hnodes : cluster.listNodes state = (.ok nodes, middle))
      (hfetch : Fetch.all cluster (config.discovered content nodes).resources middle =
        (.ok fetched, next))
      (h : Kubelet.reconcile fetched = .error e) :
      Gathers config cluster files state (.error e) next
  | gathered {content : LoadedContent} {nodes : List Node} {middle next : σ}
      {fetched outcome : Outcome}
      (hload : config.loadContent files = .ok content)
      (hnodes : cluster.listNodes state = (.ok nodes, middle))
      (hfetch : Fetch.all cluster (config.discovered content nodes).resources middle =
        (.ok fetched, next))
      (h : Kubelet.reconcile fetched = .ok outcome) :
      Gathers config cluster files state (.ok ⟨config.discovered content nodes, outcome⟩) next

/-- A run: the steps before saving and, when all of them succeed, saving. -/
inductive Ends (config : Config) (cluster : Cluster σ) (files : FileSystem) (state : σ) :
    Except Error Collection → FileSystem → σ → Prop where
  | notGathered {e : Error} {next : σ} (h : Gathers config cluster files state (.error e) next) :
      Ends config cluster files state (.error e) files next
  | notSaved {collection : Collection} {e : Error} {after : FileSystem} {next : σ}
      (h : Gathers config cluster files state (.ok collection) next)
      (hsave : config.save collection files = (.error e, after)) :
      Ends config cluster files state (.error e) after next
  | saved {collection : Collection} {after : FileSystem} {next : σ}
      (h : Gathers config cluster files state (.ok collection) next)
      (hsave : config.save collection files = (.ok (), after)) :
      Ends config cluster files state (.ok collection) after next

private theorem collect_of_noContent {e : Error} (h : config.loadContent files = .error e) :
    config.collect cluster files state = (.error e, state) := by
  simp only [collect, loadAndDiscover, h]
  rfl

private theorem collect_of_noNodes {content : LoadedContent} {failure : Failure}
    (hload : config.loadContent files = .ok content)
    (h : cluster.listNodes state = (.error failure, next)) :
    config.collect cluster files state = (.error (.fetch "/api/v1/nodes" failure), next) := by
  simp only [collect, loadAndDiscover, hload, discover, Discovery.discover, Cluster.roleIndex, bind,
    StateT.bind, h]
  rfl

/-- With content and nodes the rest is fetching and reconciling. -/
private theorem collect_of_nodes {content : LoadedContent} {nodes : List Node} {middle : σ}
    (hload : config.loadContent files = .ok content)
    (hnodes : cluster.listNodes state = (.ok nodes, middle)) :
    config.collect cluster files state =
      match Fetch.all cluster (config.discovered content nodes).resources middle with
      | (.error e, next) => (.error e, next)
      | (.ok outcome, next) =>
          ((Kubelet.reconcile outcome).map fun outcome =>
            ⟨config.discovered content nodes, outcome⟩, next) := by
  have hdiscover : config.loadAndDiscover cluster files state =
      (.ok (config.discovered content nodes), middle) := by
    simp only [loadAndDiscover, hload, discover, Discovery.discover, Cluster.roleIndex, bind,
      StateT.bind, hnodes]
    rfl
  simp only [collect, bind, StateT.bind, hdiscover]
  rcases Fetch.all cluster (config.discovered content nodes).resources middle with
    ⟨e | outcome, next⟩
  · rfl
  · rfl

/-- Collecting takes the steps before saving. -/
private theorem gathers_collect (config : Config) (cluster : Cluster σ) (files : FileSystem)
    (state : σ) :
    Gathers config cluster files state (config.collect cluster files state).1
      (config.collect cluster files state).2 := by
  cases hload : config.loadContent files with
  | error e =>
      rw [collect_of_noContent hload]
      exact .noContent hload
  | ok content =>
      rcases hnodes : cluster.listNodes state with ⟨nodes | nodes, middle⟩
      · rw [collect_of_noNodes hload hnodes]
        exact .noNodes hload hnodes
      · rw [collect_of_nodes hload hnodes]
        rcases hfetch : Fetch.all cluster (config.discovered content nodes).resources middle with
          ⟨e | fetched, next⟩
        · exact .notFetched hload hnodes hfetch
        · cases hreconcile : Kubelet.reconcile fetched with
          | error e =>
              simp only [hreconcile]
              exact .notReconciled hload hnodes hfetch hreconcile
          | ok outcome =>
              simp only [hreconcile]
              exact .gathered hload hnodes hfetch hreconcile

/-- There is one way to go through the steps before saving. -/
theorem collect_eq_iff :
    config.collect cluster files state = (result, next) ↔
      Gathers config cluster files state result next := by
  constructor
  · intro h
    have hgathers := gathers_collect config cluster files state
    rwa [h] at hgathers
  · intro h
    cases h with
    | noContent hload => exact collect_of_noContent hload
    | noNodes hload hnodes => exact collect_of_noNodes hload hnodes
    | notFetched hload hnodes hfetch => rw [collect_of_nodes hload hnodes, hfetch]
    | notReconciled hload hnodes hfetch hreconcile =>
        rw [collect_of_nodes hload hnodes, hfetch]
        simp only [hreconcile]
        rfl
    | gathered hload hnodes hfetch hreconcile =>
        rw [collect_of_nodes hload hnodes, hfetch]
        simp only [hreconcile]
        rfl

/-- A run does what one of the cases says, and no other. -/
theorem run_eq_iff :
    config.run cluster (files, state) = (result, after, next) ↔
      Ends config cluster files state result after next := by
  constructor
  · intro h
    rcases hcollect : config.collect cluster files state with ⟨e | collection, last⟩
    · rw [run, hcollect] at h
      cases h
      exact .notGathered (collect_eq_iff.1 hcollect)
    · rcases hsave : config.save collection files with ⟨e | done, left⟩
      · simp only [run, hcollect, hsave] at h
        cases h
        exact .notSaved (collect_eq_iff.1 hcollect) hsave
      · simp only [run, hcollect, hsave] at h
        cases h
        exact .saved (collect_eq_iff.1 hcollect) hsave
  · intro h
    cases h with
    | notGathered h => simp only [run, collect_eq_iff.2 h]
    | notSaved h hsave => simp only [run, collect_eq_iff.2 h, hsave]
    | saved h hsave => simp only [run, collect_eq_iff.2 h, hsave]

/-- The way in which a run ends. -/
theorem ends_run (config : Config) (cluster : Cluster σ) (files : FileSystem) (state : σ) :
    Ends config cluster files state (config.run cluster (files, state)).1
      (config.run cluster (files, state)).2.1 (config.run cluster (files, state)).2.2 :=
  run_eq_iff.1 rfl

/-! ## What happens to the files -/

/-- A refused key ends saving before anything is written. -/
private theorem save_of_isRefused
    (h : ∃ key ∈ collection.outcome.results.keys, Save.IsRefused key) :
    ∃ e, config.save collection files = (.error e, files) := by
  obtain ⟨key, -, -, -, hresults⟩ := Save.results_of_isRefused config.resultDirectory h
  refine ⟨.badDumpPath key, ?_⟩
  simp only [save, Save.outcome, hresults]
  rfl

/-- The files are as they were unless everything was collected and every result has a place. -/
theorem exists_gathers_of_files_ne (h : (config.run cluster (files, state)).2.1 ≠ files) :
    ∃ collection next, Gathers config cluster files state (.ok collection) next ∧
      ∀ key ∈ collection.outcome.results.keys, ¬ Save.IsRefused key := by
  have hends := ends_run config cluster files state
  -- A save that changes files was not refused.
  have hplaces {collection : Collection} {answer : Except Error Unit} {after : FileSystem}
      (hsave : config.save collection files = (answer, after)) (hafter : after ≠ files) :
      ∀ key ∈ collection.outcome.results.keys, ¬ Save.IsRefused key := by
    intro key hkey hrefused
    have hrefusedSave : ∃ e, config.save collection files = (.error e, files) :=
      save_of_isRefused ⟨key, hkey, hrefused⟩
    obtain ⟨e, hunchanged⟩ := hrefusedSave
    rw [hsave] at hunchanged
    cases hunchanged
    exact hafter rfl
  generalize config.run cluster (files, state) = ended at h hends
  obtain ⟨result, after, next⟩ := ended
  cases hends with
  | notGathered _ => exact absurd rfl h
  | notSaved hgathers hsave => exact ⟨_, _, hgathers, hplaces hsave h⟩
  | saved hgathers hsave => exact ⟨_, _, hgathers, hplaces hsave h⟩

/-- A run takes nothing away, however it ends. -/
theorem extends_run (config : Config) (cluster : Cluster σ) (files : FileSystem) (state : σ) :
    FileSystem.Extends files (config.run cluster (files, state)).2.1 := by
  have hends := ends_run config cluster files state
  have hsaved {collection : Collection} {answer : Except Error Unit} {after : FileSystem}
      (hsave : config.save collection files = (answer, after)) :
      FileSystem.Extends files after := by
    have hextends := Save.extends_outcome config.resultDirectory config.warningsFile
      collection.outcome files
    rw [save] at hsave
    rwa [hsave] at hextends
  generalize config.run cluster (files, state) = ended at hends
  obtain ⟨result, after, next⟩ := ended
  cases hends with
  | notGathered _ => exact .refl _
  | notSaved _ hsave => exact hsaved hsave
  | saved _ hsave => exact hsaved hsave

/-- The results of a run without warnings are read back when nothing was in the directory before;
of several that go to one place it is that of the greatest key. -/
theorem readFile_of_run {base : Location}
    (h : (config.run cluster (files, state)).1 = .ok collection)
    (hfresh : Save.IsFresh files config.resultDirectory base)
    (hkeys : ∀ key ∈ collection.outcome.results.keys, Save.IsSavable config.resultDirectory key)
    (hwarnings : collection.outcome.warnings = []) {key : String} {body : Bytes}
    {goal : Save.Destination} (hbody : collection.outcome.results.get? key = some body)
    (hgoal : Save.destination config.resultDirectory key = .ok goal)
    (hgreatest : ∀ other ∈ collection.outcome.results.keys,
      Save.place other = Save.place key → other ≤ key) :
    (config.run cluster (files, state)).2.1.readFile goal.path = .ok body := by
  have hends := ends_run config cluster files state
  rw [h] at hends
  generalize (config.run cluster (files, state)).2.1 = after at hends
  cases hends with
  | saved _ hsave =>
      rcases hresults : Save.results config.resultDirectory collection.outcome.results files with
        ⟨e | done, middle⟩
      · simp only [save, Save.outcome, bind, StateT.bind, hresults] at hsave
        cases hsave
      · have hmiddle : middle = after := by
          simp only [save, Save.outcome, bind, StateT.bind, hresults, hwarnings,
            Save.warnings] at hsave
          exact congrArg Prod.snd hsave
        have hsucceeds : (Save.results config.resultDirectory collection.outcome.results files).1 =
            .ok () := by rw [hresults]
        have hapart := Save.apart_of_succeeds hfresh hkeys hsucceeds
        have hsaved := Save.saved_of_apart hfresh hkeys hapart
        have hread := hsaved.2 key body goal hbody hgoal hgreatest
        rwa [hresults, hmiddle] at hread

/-! ## What the cluster is asked -/

/-- The requests of a run when the answers of the cluster depend on the request alone. -/
inductive Asks (config : Config) (nodes : Except Failure (List Node)) (answers : Answers)
    (files : FileSystem) : List Request → Prop where
  | nothing {e : Error} (h : config.loadContent files = .error e) :
      Asks config nodes answers files []
  | nodesOnly {content : LoadedContent} {failure : Failure}
      (hload : config.loadContent files = .ok content) (h : nodes = .error failure) :
      Asks config nodes answers files [.listNodes]
  | upTo {content : LoadedContent} {list : List Node} {requests : List Request} {e : Error}
      (hload : config.loadContent files = .ok content) (hnodes : nodes = .ok list)
      (h : AbortsIn answers strategyFor (config.discovered content list).resources requests e) :
      Asks config nodes answers files (.listNodes :: requests)
  | all {content : LoadedContent} {list : List Node} {requests : List Request}
      {entries : List (String × Bytes)} {warnings : List String}
      (hload : config.loadContent files = .ok content) (hnodes : nodes = .ok list)
      (h : Passes answers strategyFor (config.discovered content list).resources requests entries
        warnings) :
      Asks config nodes answers files (.listNodes :: requests)

/-- Saving leaves the cluster alone. -/
private theorem state_run (config : Config) (cluster : Cluster σ) (files : FileSystem) (state : σ) :
    (config.run cluster (files, state)).2.2 = (config.collect cluster files state).2 := by
  rcases hcollect : config.collect cluster files state with ⟨e | collection, next⟩
  · simp only [run, hcollect]
  · rcases hsave : config.save collection files with ⟨e | done, after⟩ <;>
      simp only [run, hcollect, hsave]

/-- The nodes are listed once the content is there, then the resources are fetched, and nothing is
asked after that. -/
theorem run_logging {nodes : Except Failure (List Node)} {answers : Answers}
    (hnodes : ∀ state, (cluster.listNodes state).1 = nodes) (hanswers : AnswersBy cluster answers)
    (hend : ListingEnds cluster answers) (log : List Request) :
    ∃ requests, Asks config nodes answers files requests ∧
      (config.run cluster.logging (files, state, log)).2.2.2 = log ++ requests := by
  rw [state_run]
  cases hload : config.loadContent files with
  | error e => exact ⟨_, .nothing hload, by rw [collect_of_noContent hload, List.append_nil]⟩
  | ok content =>
      have hlist : cluster.logging.listNodes (state, log) =
          (nodes, (cluster.listNodes state).2, log ++ [.listNodes]) := by
        rw [← hnodes state]
        rfl
      cases nodes with
      | error failure =>
          exact ⟨_, .nodesOnly hload rfl, by rw [collect_of_noNodes hload hlist]⟩
      | ok list =>
          rw [collect_of_nodes hload hlist, Fetch.all]
          rcases passes_or_abortsIn hend strategyFor (config.discovered content list).resources with
            ⟨requests, entries, warnings, hpasses⟩ | ⟨requests, e, haborts⟩
          · obtain ⟨next, hafter⟩ := after_logging_of_passes hanswers hend hpasses
              (cluster.listNodes state).2 (log ++ [.listNodes])
            refine ⟨_, .all hload rfl hpasses, ?_⟩
            rw [hafter, List.append_assoc]
            rfl
          · obtain ⟨next, hafter⟩ := after_logging_of_abortsIn hanswers hend haborts
              (cluster.listNodes state).2 (log ++ [.listNodes])
            refine ⟨_, .upTo hload rfl haborts, ?_⟩
            rw [hafter, List.append_assoc]
            rfl

/-! ## Where the results come from -/

/-- Every result of a run was left by a resource that was discovered, or is what the nodes of a role
have in common in the results that were fetched. -/
theorem exists_source_of_run (h : (config.run cluster (files, state)).1 = .ok collection)
    {key : String} {stored : Bytes} (hget : collection.outcome.results.get? key = some stored) :
    ∃ fetched middle last,
      Fetch.all cluster collection.discovery.resources middle = (.ok fetched, last) ∧
      ((∃ role value, key = Kubelet.roleKey role ∧
          Kubelet.IsArtifact fetched.results role stored value) ∨
        ∃ resource ∈ collection.discovery.resources, ∃ during, key = resource.dumpPath ∧
          Leaves resource (body cluster (strategyFor resource.uri) resource.uri during).1
            stored) := by
  have hends := ends_run config cluster files state
  rw [h] at hends
  generalize (config.run cluster (files, state)).2.1 = after at hends
  generalize (config.run cluster (files, state)).2.2 = next at hends
  cases hends with
  | saved hgathers _ =>
      cases hgathers with
      | @gathered _ _ middle _ fetched _ _ _ hfetch hreconcile =>
          refine ⟨fetched, middle, next, hfetch, ?_⟩
          have hreconciled := Kubelet.reconciled hreconcile
          by_cases hrole : ∃ role, Kubelet.Collected fetched.results role ∧
            key = Kubelet.roleKey role
          · obtain ⟨role, hcollected, rfl⟩ := hrole
            obtain ⟨value, artifact, hartifact, his⟩ := hreconciled.artifact role hcollected
            rw [hartifact, Option.some.injEq] at hget
            exact .inl ⟨role, value, rfl, hget ▸ his⟩
          · rw [hreconciled.others key fun role hcollected hkey =>
              hrole ⟨role, hcollected, hkey⟩] at hget
            exact .inr (exists_source_of_all (congrArg Prod.fst hfetch) hget)

end ClusterEvidence.Config
