import ClusterEvidence.Cluster.Recorded
import ClusterEvidence.Fetch

/-!
# Answers of a cluster that depend on the request alone

A cluster may be any machine with a state. Here it is one whose answers are a function of the
request (`AnswersBy`), and the requests that it receives are written down (`Cluster.logging`). What
the body of a URI is then, and which requests are made for it, is a relation between the answers and
the URI (`Streams`); a listing that never ends has no answer in it.

## Main results

* `listFrom_logging`, `body_logging` — reading a body gives the answer of the relation and makes
  exactly its requests.
* `mirrors_after` — writing the requests down changes nothing else.
-/

namespace ClusterEvidence

variable {σ : Type}

namespace Cluster

/-! ## Answers and requests -/

/-- Answers that depend on the request alone. -/
structure Answers where
  get : (uri : String) → Except Failure Bytes
  page : (uri : String) → (limit : Nat) → (token : Option String) → Except Failure Page

/-- A cluster gives these answers, whatever its state. -/
structure AnswersBy (cluster : Cluster σ) (answers : Answers) : Prop where
  get : ∀ uri state, (cluster.getRaw uri state).1 = answers.get uri
  page : ∀ uri limit token state,
    (cluster.listPage uri limit token state).1 = answers.page uri limit token

/-- The cluster that also writes down the requests that it receives. -/
def logging (cluster : Cluster σ) : Cluster (σ × List Request) where
  listNodes := fun (state, log) =>
    ((cluster.listNodes state).1, (cluster.listNodes state).2, log ++ [.listNodes])
  getRaw := fun uri (state, log) =>
    ((cluster.getRaw uri state).1, (cluster.getRaw uri state).2, log ++ [.get uri])
  listPage := fun uri limit token (state, log) =>
    ((cluster.listPage uri limit token state).1, (cluster.listPage uri limit token state).2,
      log ++ [.page uri limit token])
  pageLimit := cluster.pageLimit

end Cluster

namespace Fetch

open Cluster

/-! ## What a body is -/

/-- The request for the page of a token. -/
def pageRequest (token : Option String) : Request :=
  .page MachineConfig.collectionUri pageSize token

/-- The answer to it. -/
def pageAnswer (answers : Answers) (token : Option String) : Except Failure Page :=
  answers.page MachineConfig.collectionUri pageSize token

/-- Listing from the page of a token on, after some items, makes these requests and ends with this
answer. -/
inductive Lists (answers : Answers) :
    Option String → List Json → List Request → Except Error (List Json) → Prop where
  | failed {token items failure} (h : pageAnswer answers token = .error failure) :
      Lists answers token items [pageRequest token]
        (.error (.fetch MachineConfig.collectionUri failure))
  | untrimmed {token items page e} (h : pageAnswer answers token = .ok page)
      (htrim : mapAll MachineConfig.trim page.items = .error e) :
      Lists answers token items [pageRequest token] (.error e)
  | last {token items page trimmed} (h : pageAnswer answers token = .ok page)
      (htrim : mapAll MachineConfig.trim page.items = .ok trimmed) (hnext : page.next = none) :
      Lists answers token items [pageRequest token] (.ok (items ++ trimmed))
  | more {token items page trimmed next requests answer} (h : pageAnswer answers token = .ok page)
      (htrim : mapAll MachineConfig.trim page.items = .ok trimmed)
      (hnext : page.next = some next)
      (hrest : Lists answers (some next) (items ++ trimmed) requests answer) :
      Lists answers token items (pageRequest token :: requests) answer

/-- Reading the body of a URI makes these requests and ends with this answer. -/
inductive Streams (answers : Answers) (uri : String) :
    Strategy → List Request → Except Error Bytes → Prop where
  | body {bytes} (h : answers.get uri = .ok bytes) :
      Streams answers uri .plain [.get uri] (.ok bytes)
  | noBody {failure} (h : answers.get uri = .error failure) :
      Streams answers uri .plain [.get uri] (.error (.fetch uri failure))
  | listing {requests items} (h : Lists answers none [] requests (.ok items)) :
      Streams answers uri .machineConfigs requests (.ok (MachineConfig.list items).prettyBytes)
  | noListing {requests e} (h : Lists answers none [] requests (.error e)) :
      Streams answers uri .machineConfigs requests (.error e)

/-- The listing ends, and a cluster allows for as many pages as it has. -/
def ListingEnds (cluster : Cluster σ) (answers : Answers) : Prop :=
  ∃ requests answer, Lists answers none [] requests answer ∧ requests.length ≤ cluster.pageLimit

variable {cluster : Cluster σ} {answers : Answers}

/-- A listing is determined by the answers. -/
theorem Lists.unique {token : Option String} {items : List Json} {requests others : List Request}
    {answer other : Except Error (List Json)} (h : Lists answers token items requests answer)
    (h' : Lists answers token items others other) : requests = others ∧ answer = other := by
  induction h generalizing others with
  | failed hpage => cases h' <;> simp_all
  | untrimmed hpage htrim => cases h' <;> simp_all
  | last hpage htrim hnext => cases h' <;> simp_all
  | more hpage htrim hnext hrest ih =>
      cases h' with
      | failed hpage' => simp_all
      | untrimmed hpage' htrim' => simp_all
      | last hpage' htrim' hnext' => simp_all
      | more hpage' htrim' hnext' hrest' =>
          rw [hpage, Except.ok.injEq] at hpage'
          subst hpage'
          rw [htrim, Except.ok.injEq] at htrim'
          rw [hnext, Option.some.injEq] at hnext'
          subst htrim' hnext'
          have htail := ih hrest'
          exact ⟨congrArg _ htail.1, htail.2⟩

/-- No listing makes more requests than the cluster allows for. -/
private theorem Streams.length_le (hend : ListingEnds cluster answers) {strategy : Strategy}
    {uri : String} {requests : List Request} {answer : Except Error Bytes}
    (h : Streams answers uri strategy requests answer) (hlisting : strategy = .machineConfigs) :
    requests.length ≤ cluster.pageLimit := by
  obtain ⟨others, other, hlists, hlength⟩ := hend
  cases h with
  | body => cases hlisting
  | noBody => cases hlisting
  | listing h => rwa [(h.unique hlists).1]
  | noListing h => rwa [(h.unique hlists).1]

/-- Every body is read in some way. -/
theorem exists_streams (hend : ListingEnds cluster answers) (strategy : Strategy) (uri : String) :
    ∃ requests answer, Streams answers uri strategy requests answer := by
  cases strategy with
  | plain =>
      cases h : answers.get uri with
      | error failure => exact ⟨_, _, .noBody h⟩
      | ok bytes => exact ⟨_, _, .body h⟩
  | machineConfigs =>
      obtain ⟨requests, answer, hlists, _⟩ := hend
      cases answer with
      | error e => exact ⟨_, _, .noListing hlists⟩
      | ok items => exact ⟨_, _, .listing hlists⟩

/-! ## Running against a cluster -/

/-- One page of a listing. -/
theorem listFrom_succ (cluster : Cluster σ) (pages : Nat) (token : Option String)
    (items : List Json) (state : σ) :
    listFrom cluster (pages + 1) token items state =
      match cluster.listPage MachineConfig.collectionUri pageSize token state with
      | (.error failure, next) => (.error (.fetch MachineConfig.collectionUri failure), next)
      | (.ok page, next) =>
          match mapAll MachineConfig.trim page.items with
          | .error e => (.error e, next)
          | .ok trimmed =>
              match page.next with
              | none => (.ok (items ++ trimmed), next)
              | some token => listFrom cluster pages (some token) (items ++ trimmed) next := by
  rw [listFrom]
  rcases hanswer : cluster.listPage MachineConfig.collectionUri pageSize token state with
    ⟨answer, next⟩
  simp only [bind, StateT.bind, hanswer]
  cases answer with
  | error failure => rfl
  | ok page =>
      cases htrim : mapAll MachineConfig.trim page.items with
      | error e =>
          simp only [htrim]
          rfl
      | ok trimmed =>
          cases hnext : page.next with
          | none =>
              simp only [htrim, hnext]
              rfl
          | some token => simp only [htrim, hnext]

/-- A page is asked for, written down and answered. -/
private theorem logging_listPage (h : AnswersBy cluster answers) (token : Option String) (state : σ)
    (log : List Request) :
    cluster.logging.listPage MachineConfig.collectionUri pageSize token (state, log) =
      (pageAnswer answers token,
        (cluster.listPage MachineConfig.collectionUri pageSize token state).2,
        log ++ [pageRequest token]) := by
  rw [pageAnswer, ← h.page MachineConfig.collectionUri pageSize token state]
  rfl

/-- A listing makes at least one request. -/
private theorem Lists.exists_pages {token : Option String} {items : List Json}
    {requests : List Request}
    {answer : Except Error (List Json)} (h : Lists answers token items requests answer)
    {pages : Nat} (hpages : requests.length ≤ pages) : ∃ others, pages = others + 1 := by
  have hlength : 0 < requests.length := by cases h <;> simp
  exact ⟨pages - 1, by omega⟩

/-- Listing makes the requests of the relation and ends with its answer. -/
theorem listFrom_logging (h : AnswersBy cluster answers) {token : Option String}
    {items : List Json} {requests : List Request} {answer : Except Error (List Json)}
    (hlists : Lists answers token items requests answer) {pages : Nat}
    (hpages : requests.length ≤ pages) (state : σ) (log : List Request) :
    ∃ next, listFrom cluster.logging pages token items (state, log) =
      (answer, next, log ++ requests) := by
  obtain ⟨others, rfl⟩ := hlists.exists_pages hpages
  induction hlists generalizing others state log with
  | failed hpage =>
      rw [listFrom_succ, logging_listPage h, hpage]
      exact ⟨_, rfl⟩
  | untrimmed hpage htrim =>
      rw [listFrom_succ, logging_listPage h, hpage]
      simp only [htrim]
      exact ⟨_, rfl⟩
  | last hpage htrim hnext =>
      rw [listFrom_succ, logging_listPage h, hpage]
      simp only [htrim, hnext]
      exact ⟨_, rfl⟩
  | @more token _ _ _ _ requests _ hpage htrim hnext hrest ih =>
      have hothers : requests.length ≤ others := Nat.le_of_succ_le_succ hpages
      obtain ⟨fewer, rfl⟩ := hrest.exists_pages hothers
      rw [listFrom_succ, logging_listPage h, hpage]
      simp only [htrim, hnext]
      have hlog : log ++ pageRequest token :: requests =
          log ++ [pageRequest token] ++ requests := by
        simp
      rw [hlog]
      exact ih _ _ _ hothers

/-- Reading a body makes the requests of the relation and ends with its answer. -/
theorem body_logging (h : AnswersBy cluster answers) {strategy : Strategy} {uri : String}
    {requests : List Request} {answer : Except Error Bytes}
    (hend : ListingEnds cluster answers) (hstreams : Streams answers uri strategy requests answer)
    (state : σ) (log : List Request) :
    ∃ next, body cluster.logging strategy uri (state, log) = (answer, next, log ++ requests) := by
  have hget : cluster.logging.getRaw uri (state, log) =
      (answers.get uri, (cluster.getRaw uri state).2, log ++ [.get uri]) := by
    rw [← h.get uri state]
    rfl
  have hpages := hstreams.length_le hend
  cases hstreams with
  | body hbody =>
      simp only [body, bind, StateT.bind, hget, hbody]
      exact ⟨_, rfl⟩
  | noBody hbody =>
      simp only [body, bind, StateT.bind, hget, hbody]
      exact ⟨_, rfl⟩
  | listing hlists =>
      obtain ⟨next, hlist⟩ := listFrom_logging h hlists (hpages rfl) state log
      have hlimit : cluster.logging.pageLimit = cluster.pageLimit := rfl
      simp only [body, bind, StateT.bind, hlimit, hlist]
      exact ⟨next, rfl⟩
  | noListing hlists =>
      obtain ⟨next, hlist⟩ := listFrom_logging h hlists (hpages rfl) state log
      have hlimit : cluster.logging.pageLimit = cluster.pageLimit := rfl
      simp only [body, bind, StateT.bind, hlimit, hlist]
      exact ⟨next, rfl⟩

/-! ## Writing the requests down -/

/-- A program that also writes requests down does what another one does. -/
def Mirrors {α : Type} (logged : StateM (σ × List Request) α) (program : StateM σ α) : Prop :=
  ∀ state log, ((logged (state, log)).1, (logged (state, log)).2.1) = program state

theorem Mirrors.pure {α : Type} (value : α) : Mirrors (σ := σ) (pure value) (pure value) :=
  fun _ _ => rfl

theorem Mirrors.bind {α β : Type} {logged : StateM (σ × List Request) α} {program : StateM σ α}
    {loggedRest : α → StateM (σ × List Request) β} {rest : α → StateM σ β}
    (h : Mirrors logged program) (hrest : ∀ value, Mirrors (loggedRest value) (rest value)) :
    Mirrors (logged >>= loggedRest) (program >>= rest) := by
  intro state log
  have hfirst := h state log
  simp only [Bind.bind, StateT.bind]
  rw [← hfirst]
  rcases logged (state, log) with ⟨value, next, longer⟩
  exact hrest value next longer

private theorem mirrors_listFrom (cluster : Cluster σ) (pages : Nat) (token : Option String)
    (items : List Json) :
    Mirrors (listFrom cluster.logging pages token items) (listFrom cluster pages token items) := by
  induction pages generalizing token items with
  | zero => exact .pure _
  | succ pages ih =>
      rw [listFrom, listFrom]
      refine .bind (fun _ _ => rfl) fun answer => ?_
      cases answer with
      | error failure => exact .pure _
      | ok page =>
          cases htrim : mapAll MachineConfig.trim page.items with
          | error e =>
              simp only [htrim]
              exact .pure _
          | ok trimmed =>
              cases hnext : page.next with
              | none =>
                  simp only [htrim, hnext]
                  exact .pure _
              | some next =>
                  simp only [htrim, hnext]
                  exact ih _ _

private theorem mirrors_body (cluster : Cluster σ) (strategy : Strategy) (uri : String) :
    Mirrors (body cluster.logging strategy uri) (body cluster strategy uri) := by
  cases strategy with
  | plain =>
      refine .bind (fun _ _ => rfl) fun answer => ?_
      cases answer <;> exact .pure _
  | machineConfigs =>
      refine .bind (mirrors_listFrom cluster _ none []) fun answer => ?_
      cases answer <;> exact .pure _

theorem mirrors_after (cluster : Cluster σ) (dispatch : String → Strategy)
    (resources : List Resource) (outcome : Outcome) :
    Mirrors (after cluster.logging dispatch resources outcome)
      (after cluster dispatch resources outcome) := by
  induction resources generalizing outcome with
  | nil => exact .pure _
  | cons resource resources ih =>
      rw [after, after]
      refine .bind (.bind (mirrors_body cluster _ _) fun answer => .pure _) fun result => ?_
      cases result with
      | error e => exact .pure _
      | ok outcome => exact ih outcome

end Fetch

end ClusterEvidence
