import ClusterEvidence.Cluster.Basic
import ClusterEvidence.Filter.Result
import ClusterEvidence.MachineConfig
import ClusterEvidence.Outcome

/-!
# Fetching resources

Resources are fetched one after another. Most are the body of their URI; the collection of machine
configurations is listed page by page, trimmed, and put together as one document. A tolerated
failure is noted with a warning, and a missing object leaves a marker under its dump path. An empty
body leaves nothing. A body passes the filter of its resource, if there is one, and is stored.

Any other failure ends the fetch, and so does a filter that fails.
-/

namespace ClusterEvidence.Fetch

variable {σ : Type}

/-! ## Reading one body -/

/-- How the body of a resource is read. -/
inductive Strategy where
  /-- As the body of its URI. -/
  | plain
  /-- As the trimmed list of all machine configurations. -/
  | machineConfigs
  deriving DecidableEq, Repr

/-- The strategy for a URI. -/
def strategyFor (uri : String) : Strategy :=
  if uri = MachineConfig.collectionUri then .machineConfigs else .plain

/-- Machine configurations per page. -/
def pageSize : Nat := 5

/-- Lists machine configurations from the page of a token on, after the items already listed, in at
most so many pages. -/
def listFrom (cluster : Cluster σ) :
    (pages : Nat) → (token : Option String) → (items : List Json) →
      StateM σ (Except Error (List Json))
  | 0, _, _ => return .error (.endlessListing MachineConfig.collectionUri)
  | pages + 1, token, items => do
      match ← cluster.listPage MachineConfig.collectionUri pageSize token with
      | .error failure => return .error (.fetch MachineConfig.collectionUri failure)
      | .ok page =>
          match mapAll MachineConfig.trim page.items with
          | .error e => return .error e
          | .ok trimmed =>
              match page.next with
              | none => return .ok (items ++ trimmed)
              | some token => listFrom cluster pages (some token) (items ++ trimmed)

/-- Reads the body of a URI. -/
def body (cluster : Cluster σ) (strategy : Strategy) (uri : String) :
    StateM σ (Except Error Bytes) :=
  match strategy with
  | .plain => do
      match ← cluster.getRaw uri with
      | .error failure => return .error (.fetch uri failure)
      | .ok body => return .ok body
  | .machineConfigs => do
      match ← listFrom cluster cluster.pageLimit none [] with
      | .error e => return .error e
      | .ok items => return .ok (MachineConfig.list items).prettyBytes

/-! ## Recording one answer -/

/-- The warning about a tolerated failure. -/
def failureWarning (uri : String) (failure : Cluster.Failure) : String :=
  "could not fetch " ++ uri ++ ": " ++ failure.message

/-- The outcome after a tolerated failure. -/
def noteFailure (dumpPath uri : String) (failure : Cluster.Failure) (outcome : Outcome) :
    Outcome :=
  let outcome := outcome.warn (failureWarning uri failure)
  if failure.isNotFound then outcome.store dumpPath (Outcome.marker failure.reason) else outcome

/-- The outcome after a body was read. -/
def noteBody (resource : Resource) (body : Bytes) (outcome : Outcome) : Except Error Outcome :=
  if body.isEmpty then .ok outcome
  else if !resource.hasFilter then .ok (outcome.store resource.dumpPath body)
  else
    match Filter.applyTo resource.filter body with
    | .error (.filter fault) => .error (.filter resource.filter fault)
    | .error (.document fault) => .error (.json fault)
    | .ok filtered =>
        let outcome :=
          if filtered.extraResults then
            outcome.warn (Filter.extraResultsWarning resource.filter)
          else outcome
        .ok (outcome.store resource.dumpPath filtered.body)

/-- The outcome after the answer for a resource: a body or a failure. -/
def note (resource : Resource) (answer : Except Error Bytes) (outcome : Outcome) :
    Except Error Outcome :=
  match answer with
  | .ok body => noteBody resource body outcome
  | .error (.fetch uri failure) =>
      if failure.isTolerated then .ok (noteFailure resource.dumpPath uri failure outcome)
      else .error (.fetch uri failure)
  | .error e => .error e

/-! ## All resources -/

/-- Fetches one resource. -/
def one (cluster : Cluster σ) (strategyFor : String → Strategy) (resource : Resource)
    (outcome : Outcome) : StateM σ (Except Error Outcome) := do
  let answer ← body cluster (strategyFor resource.uri) resource.uri
  return note resource answer outcome

/-- Fetches resources in order, after what was fetched before. -/
def after (cluster : Cluster σ) (strategyFor : String → Strategy) :
    List Resource → Outcome → StateM σ (Except Error Outcome)
  | [], outcome => return .ok outcome
  | resource :: resources, outcome => do
      match ← one cluster strategyFor resource outcome with
      | .error e => return .error e
      | .ok outcome => after cluster strategyFor resources outcome

/-- Fetches resources in order. -/
def all (cluster : Cluster σ) (resources : List Resource) : StateM σ (Except Error Outcome) :=
  after cluster strategyFor resources .empty

end ClusterEvidence.Fetch
