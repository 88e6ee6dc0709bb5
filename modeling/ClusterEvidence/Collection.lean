import ClusterEvidence.Config
import ClusterEvidence.Content.Loading
import ClusterEvidence.Discovery
import ClusterEvidence.Fetch
import ClusterEvidence.Kubelet.Reconcile
import ClusterEvidence.Save

/-!
# Collecting evidence

A run loads the content, finds out what the profile needs, fetches it, reconciles the kubelet
configurations, and saves what it has. Every step needs the one before it; the first failure ends
the run, and only the last step writes anything.
-/

namespace ClusterEvidence

variable {σ : Type}

/-- The content of a run. -/
structure LoadedContent where
  benchmark : Document
  tailoring? : Option Document

/-- What a run has got before it is saved. -/
structure Collection where
  discovery : Discovery
  outcome : Outcome

namespace Config

/-- Waits for the content that a configuration names, the benchmark first. -/
def loadContent (config : Config) (files : FileSystem) : Except Error LoadedContent := do
  match config.content? with
  | none => .error (.config "no content file given")
  | some content =>
      let rounds := Content.unchanging files config.contentTimeout
      let benchmark ← Content.load content config.contentTimeout rounds
      match config.tailoring? with
      | none => .ok ⟨benchmark, none⟩
      | some tailoring => do
          let tailoring ← Content.load tailoring config.contentTimeout rounds
          .ok ⟨benchmark, some tailoring⟩

/-- Finds out what a run fetches. -/
def discover (config : Config) (cluster : Cluster σ) (content : LoadedContent) :
    StateM σ (Except Error Discovery) :=
  Discovery.discover cluster content.benchmark content.tailoring? config.profile config.extraUris

/-- Loads the content and finds out what a run fetches. -/
def loadAndDiscover (config : Config) (cluster : Cluster σ) (files : FileSystem) :
    StateM σ (Except Error Discovery) := do
  match config.loadContent files with
  | .error e => return .error e
  | .ok content => config.discover cluster content

/-- Fetches what was found out and reconciles it. -/
def collect (config : Config) (cluster : Cluster σ) (files : FileSystem) :
    StateM σ (Except Error Collection) := do
  match ← config.loadAndDiscover cluster files with
  | .error e => return .error e
  | .ok discovery =>
      match ← Fetch.all cluster discovery.resources with
      | .error e => return .error e
      | .ok outcome =>
          return (Kubelet.reconcile outcome).map fun outcome => ⟨discovery, outcome⟩

/-- Saves what a run has got. -/
def save (config : Config) (collection : Collection) : StateM FileSystem (Except Error Unit) :=
  Save.outcome config.resultDirectory config.warningsFile collection.outcome

/-- Collects and saves. -/
def run (config : Config) (cluster : Cluster σ) :
    StateM (FileSystem × σ) (Except Error Collection) := fun (files, state) =>
  match config.collect cluster files state with
  | (.error e, state) => (.error e, files, state)
  | (.ok collection, state) =>
      match config.save collection files with
      | (.error e, files) => (.error e, files, state)
      | (.ok (), files) => (.ok collection, files, state)

end Config

end ClusterEvidence
