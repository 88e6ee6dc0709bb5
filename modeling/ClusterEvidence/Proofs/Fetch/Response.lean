import ClusterEvidence.Proofs.Fetch.Paging
import ClusterEvidence.Proofs.Http.Body

/-!
# From responses to outcomes

A resource that has no filter is fetched from a server behind HTTP, which may answer every request
with any status and any bytes. What the fetch leaves depends on the last response alone: on the only
one for an ordinary URI (`Records`), and on the first page that does not lead to another one for the
collection of machine configurations (`RecordsPage`), with the items of the pages before it. A
listing is followed page by page (`Reaches`), so that this holds of whichever page is the last.

## Main results

* `body_plain_of_responds`, `listPage_of_responds`: one request and its response.
* `listFrom_of_reaches`: what remains of a listing after some of its pages.
* `all_recordsResponses`: what a fetch of one resource leaves.
-/

namespace ClusterEvidence.Http

open Fetch

variable {σ : Type} {client : Client} {server : Server σ} {start state next last : σ}
  {uri dumpPath message : String} {token : Option String} {response : Response}
  {items trimmed : List Json} {pages pageLimit status : Nat} {body : Bytes}

/-! ## What is recorded -/

/-- The bytes that a response carries: those that were sent, and none under the two statuses that
mean that there is no body. -/
inductive Carries (response : Response) : Bytes → Prop where
  | sent (hcontent : response.status ≠ 204) (hmodified : response.status ≠ 304) :
      Carries response response.body
  | nothing (h : response.status = 204 ∨ response.status = 304) : Carries response []

/-- The statuses that mean success. -/
def Succeeds (status : Nat) : Prop := 200 ≤ status ∧ status < 300

/-- The message of a failed request. -/
def SaysMessage (body : Bytes) (message : String) : Prop :=
  Says body Status.message (failureMessage.bodyText body) message

/-- The failure that an unsuccessful response means. -/
inductive Refuses (status : Nat) (body : Bytes) : Cluster.Failure → Prop where
  | missing {reason message : String} (hstatus : status = 404)
      (hreason : Says body Status.reason "NotFound" reason) (hmessage : SaysMessage body message) :
      Refuses status body (.notFound reason message)
  | denied {message : String} (hstatus : status = 403) (hmessage : SaysMessage body message) :
      Refuses status body (.forbidden message)
  | other {message : String} (hstatus : ¬ Succeeds status) (hfound : status ≠ 404)
      (hallowed : status ≠ 403) (hmessage : SaysMessage body message) :
      Refuses status body (.status status message)

/-- What a fetch of a URI other than the collection's leaves after a response. -/
inductive Records (uri dumpPath : String) (status : Nat) (body : Bytes) :
    Except Error Outcome → Prop where
  | stored (hstatus : Succeeds status) (hbody : body ≠ []) :
      Records uri dumpPath status body (.ok ⟨.insert .empty dumpPath body, []⟩)
  | nothing (hstatus : Succeeds status) (hbody : body = []) :
      Records uri dumpPath status body (.ok .empty)
  | missing {reason message : String} (h : Refuses status body (.notFound reason message)) :
      Records uri dumpPath status body
        (.ok ⟨.insert .empty dumpPath (Text.encodeString ("# kube-api-error=" ++ reason)),
          [failureWarning uri (.notFound reason message)]⟩)
  | denied {message : String} (h : Refuses status body (.forbidden message)) :
      Records uri dumpPath status body
        (.ok ⟨.empty, [failureWarning uri (.forbidden message)]⟩)
  | aborted {message : String} (h : Refuses status body (.status status message)) :
      Records uri dumpPath status body (.error (.fetch uri (.status status message)))

/-- A page of the collection leads to the page of a token: it is readable, and its items trim. -/
inductive LeadsOn (status : Nat) (body : Bytes) (trimmed : List Json) (token : String) : Prop where
  | intro {page : Cluster.Page} (hstatus : Succeeds status) (hpage : HoldsPage body page)
      (htrim : page.items.map MachineConfig.trim = trimmed.map .ok)
      (hnext : page.next = some token)

/-- What a fetch of the collection leaves after a response that does not lead on, when these items
were listed before. -/
inductive RecordsPage (dumpPath : String) (items : List Json) (status : Nat) (body : Bytes) :
    Except Error Outcome → Prop where
  /-- A page without a token is the last one, and the list of all items is stored. -/
  | stored {page : Cluster.Page} {trimmed : List Json} {document : Json}
      (hstatus : Succeeds status) (hpage : HoldsPage body page)
      (htrim : page.items.map MachineConfig.trim = trimmed.map .ok) (hnext : page.next = none)
      (hlist : MachineConfig.IsList document (items ++ trimmed)) :
      RecordsPage dumpPath items status body
        (.ok ⟨.insert .empty dumpPath document.prettyBytes, []⟩)
  /-- A collection is missing when its kind is not served, and that leaves no marker. -/
  | unserved {reason message : String} (h : Refuses status body (.notFound reason message)) :
      RecordsPage dumpPath items status body
        (.ok ⟨.empty, [failureWarning MachineConfig.collectionUri (.noKindMatch message)]⟩)
  | denied {message : String} (h : Refuses status body (.forbidden message)) :
      RecordsPage dumpPath items status body
        (.ok ⟨.empty, [failureWarning MachineConfig.collectionUri (.forbidden message)]⟩)
  | aborted {message : String} (h : Refuses status body (.status status message)) :
      RecordsPage dumpPath items status body
        (.error (.fetch MachineConfig.collectionUri (.status status message)))
  | unreadable {message : String} (hstatus : Succeeds status)
      (hpage : ∀ page, ¬ HoldsPage body page) :
      RecordsPage dumpPath items status body
        (.error (.fetch MachineConfig.collectionUri (.decode message)))
  | untrimmed {page : Cluster.Page} {token : Option String} {e : Error}
      (hstatus : Succeeds status) (hpage : HoldsPage body page)
      (hfails : (Turn.mk token (.ok page)).Fails e) :
      RecordsPage dumpPath items status body (.error e)

/-! ## One request -/

/-- The request for a URI is made and answered. -/
def Responds (client : Client) (server : Server σ) (uri : String)
    (parameters : List (String × String)) (state : σ) (response : Response) (next : σ) : Prop :=
  ∃ request, client.request uri parameters = .ok request ∧
    server request state = (.ok response, next)

/-- The page of a token is asked for and answered. -/
def RespondsPage (client : Client) (server : Server σ) (token : Option String) (state : σ)
    (response : Response) (next : σ) : Prop :=
  Responds client server MachineConfig.collectionUri (Client.pageParameters pageSize token) state
    response next

private theorem get_of_responds {parameters : List (String × String)}
    (h : Responds client server uri parameters state response next) :
    client.get server uri parameters state = (response.result, next) := by
  obtain ⟨request, hrequest, hserver⟩ := h
  simp only [Client.get, hrequest, bind, StateT.bind, hserver]
  rfl

/-- The body of a URI is that of the response, or its failure. -/
theorem body_plain_of_responds (h : Responds client server uri [] state response next) :
    Fetch.body (client.cluster server pageLimit) .plain uri state =
      (response.result.mapError (.fetch uri), next) := by
  have hget : (client.cluster server pageLimit).getRaw uri state = (response.result, next) :=
    get_of_responds h
  simp only [Fetch.body, bind, StateT.bind, hget]
  cases response.result <;> rfl

/-- The page of a response to the request for one. -/
def Response.page (response : Response) : Except Cluster.Failure Cluster.Page :=
  (response.result.mapError Client.collectionFailure).bind (decodeBody pageDecoder)

/-- A page is read from the body of the response. -/
theorem listPage_of_responds (h : RespondsPage client server token state response next) :
    (client.cluster server pageLimit).listPage MachineConfig.collectionUri pageSize token state =
      (response.page, next) := by
  have hget := get_of_responds h
  simp only [Client.cluster, bind, StateT.bind, hget]
  rfl

private theorem carries_content (response : Response) : Carries response response.content := by
  rw [Response.content]
  split
  · next h => exact .nothing (by simpa using h)
  · next h =>
      simp only [Bool.or_eq_true, decide_eq_true_eq, not_or] at h
      exact .sent h.1 h.2

private theorem Carries.content_eq (h : Carries response body) : response.content = body := by
  cases h with
  | sent hcontent hmodified => simp [Response.content, hcontent, hmodified]
  | nothing h => simp [Response.content, h]

private theorem succeeds_iff : isSuccess status = true ↔ Succeeds status := by
  simp [isSuccess, Succeeds]

private theorem result_of_succeeds (h : Succeeds response.status) :
    response.result = .ok response.content := if_pos (succeeds_iff.2 h)

private theorem Refuses.code_eq {code : Nat} (h : Refuses status body (.status code message)) :
    code = status := by
  cases h
  rfl

private theorem exists_refuses (h : ¬ Succeeds response.status) :
    ∃ failure, response.result = .error failure ∧
      Refuses response.status response.content failure := by
  have hmessage : SaysMessage response.content (failureMessage response.content) :=
    failureMessage_eq_iff.1 rfl
  have hreason : Says response.content Status.reason "NotFound"
      (missingReason response.content) := missingReason_eq_iff.1 rfl
  refine ⟨_, if_neg fun hsuccess => h (succeeds_iff.1 hsuccess), ?_⟩
  rw [statusFailure]
  by_cases hfound : response.status = 404
  · rw [if_pos hfound]
    exact .missing hfound hreason hmessage
  · rw [if_neg hfound]
    by_cases hallowed : response.status = 403
    · rw [if_pos hallowed]
      exact .denied hallowed hmessage
    · rw [if_neg hallowed]
      exact .other h hfound hallowed hmessage

/-- A body without a filter is stored as it is. -/
private theorem note_body (hbody : body ≠ []) :
    note ⟨uri, dumpPath, ""⟩ (.ok body) .empty = .ok ⟨.insert .empty dumpPath body, []⟩ := by
  cases body with
  | nil => exact absurd rfl hbody
  | cons byte rest => rfl

/-- What is noted of the answer for a URI. -/
private theorem records_note (uri dumpPath : String) (response : Response) :
    Records uri dumpPath response.status response.content
      (note ⟨uri, dumpPath, ""⟩ (response.result.mapError (.fetch uri)) .empty) := by
  by_cases hstatus : Succeeds response.status
  · rw [result_of_succeeds hstatus]
    by_cases hbody : response.content = []
    · rw [hbody]
      exact .nothing hstatus rfl
    · have hnoted := @note_body uri dumpPath response.content hbody
      show Records uri dumpPath _ _ (note ⟨uri, dumpPath, ""⟩ (.ok response.content) .empty)
      rw [hnoted]
      exact .stored hstatus hbody
  · obtain ⟨failure, hresult, hrefuses⟩ := exists_refuses hstatus
    rw [hresult]
    cases failure with
    | notFound reason message =>
        show Records uri dumpPath _ _ (.ok ⟨.insert .empty dumpPath (Outcome.marker reason), _⟩)
        rw [Outcome.marker_eq]
        exact .missing hrefuses
    | forbidden message => exact .denied hrefuses
    | status code message =>
        obtain rfl := hrefuses.code_eq
        exact .aborted hrefuses
    | _ => cases hrefuses

/-! ## One page -/

private theorem page_of_succeeds (h : Succeeds response.status) :
    response.page = decodeBody pageDecoder response.content := by
  rw [Response.page, result_of_succeeds h]
  rfl

/-- Listing goes on behind a page that leads on. -/
private theorem listFrom_of_leadsOn {further : String}
    (h : RespondsPage client server token state response next) (hcarries : Carries response body)
    (hleads : LeadsOn response.status body trimmed further) :
    listFrom (client.cluster server pageLimit) (pages + 1) token items state =
      listFrom (client.cluster server pageLimit) pages (some further) (items ++ trimmed) next := by
  obtain ⟨hstatus, hpage, htrim, hnext⟩ := hleads
  rw [listFrom_succ, listPage_of_responds h, page_of_succeeds hstatus, hcarries.content_eq,
    decodeBody_page_eq_ok_iff.2 hpage]
  simp only [mapAll_eq_ok_iff.2 htrim, hnext]

/-- What a listing that ends with an answer leaves. -/
def noteListing (dumpPath : String) (answer : Except Error (List Json)) : Except Error Outcome :=
  note ⟨MachineConfig.collectionUri, dumpPath, ""⟩
    (answer.map fun items => (MachineConfig.list items).prettyBytes) .empty

/-- A page leads on, or the listing ends with it. -/
private theorem leadsOn_or_recordsPage (h : RespondsPage client server token state response next)
    (dumpPath : String) (items : List Json) (pages pageLimit : Nat) :
    (∃ trimmed further, LeadsOn response.status response.content trimmed further) ∨
      ∃ answer, listFrom (client.cluster server pageLimit) (pages + 1) token items state =
          (answer, next) ∧
        RecordsPage dumpPath items response.status response.content
          (noteListing dumpPath answer) := by
  rw [listFrom_succ, listPage_of_responds h]
  by_cases hstatus : Succeeds response.status
  · rw [page_of_succeeds hstatus]
    cases hpage : decodeBody pageDecoder response.content with
    | error failure =>
        obtain ⟨message, rfl⟩ := exists_of_decodeBody_eq_error hpage
        have hunreadable (page : Cluster.Page) : ¬ HoldsPage response.content page := by
          rw [← decodeBody_page_eq_ok_iff, hpage]
          exact nofun
        exact .inr ⟨_, rfl, .unreadable hstatus hunreadable⟩
    | ok page =>
        have hholds := decodeBody_page_eq_ok_iff.1 hpage
        dsimp only
        cases htrim : mapAll MachineConfig.trim page.items with
        | error e =>
            have hfails : (Turn.mk token (.ok page)).Fails e := .of_mapAll rfl htrim
            have hnoted : noteListing dumpPath (.error e) = .error e := by
              cases hfails with
              | refused h => cases h
              | untrimmed => rfl
            refine .inr ⟨_, rfl, ?_⟩
            rw [hnoted]
            exact .untrimmed hstatus hholds hfails
        | ok trimmed =>
            have htrimmed := mapAll_eq_ok_iff.1 htrim
            dsimp only
            cases hnext : page.next with
            | some further => exact .inl ⟨trimmed, further, .intro hstatus hholds htrimmed hnext⟩
            | none =>
                refine .inr ⟨_, rfl, ?_⟩
                show RecordsPage dumpPath items _ _
                  (note ⟨MachineConfig.collectionUri, dumpPath, ""⟩
                    (.ok (MachineConfig.list (items ++ trimmed)).prettyBytes) .empty)
                rw [note_body (prettyBytes_list_ne_nil _)]
                exact .stored hstatus hholds htrimmed hnext (MachineConfig.isList_list _)
  · obtain ⟨failure, hresult, hrefuses⟩ := exists_refuses hstatus
    rw [Response.page, hresult]
    refine .inr ?_
    cases failure with
    | notFound reason message => exact ⟨_, rfl, .unserved hrefuses⟩
    | forbidden message => exact ⟨_, rfl, .denied hrefuses⟩
    | status code message =>
        obtain rfl := hrefuses.code_eq
        exact ⟨_, rfl, .aborted hrefuses⟩
    | _ => cases hrefuses

/-! ## Many pages -/

/-- A listing comes to the page of a token: each page before it was answered in turn, led to the
next one and gave its trimmed items. -/
inductive Reaches (client : Client) (server : Server σ) (start : σ) :
    σ → Option String → List Json → Nat → Prop where
  | first : Reaches client server start start none [] 0
  | further {state next : σ} {token : Option String} {items trimmed : List Json} {pages : Nat}
      {response : Response} {body : Bytes} {further : String}
      (h : Reaches client server start state token items pages)
      (hresponds : RespondsPage client server token state response next)
      (hcarries : Carries response body)
      (hleads : LeadsOn response.status body trimmed further) :
      Reaches client server start next (some further) (items ++ trimmed) (pages + 1)

/-- What remains of a listing is a listing from the page that it has come to. -/
theorem listFrom_of_reaches (h : Reaches client server start state token items pages)
    (more pageLimit : Nat) :
    listFrom (client.cluster server pageLimit) (pages + more) none [] start =
      listFrom (client.cluster server pageLimit) more token items state := by
  induction h generalizing more with
  | first => rw [Nat.zero_add]
  | @further _ _ _ _ _ pages _ _ _ _ hresponds hcarries hleads ih =>
      have hcount : pages + 1 + more = pages + (more + 1) := by omega
      rw [hcount, ih, listFrom_of_leadsOn hresponds hcarries hleads]

/-! ## The fetch -/

/-- What a fetch of one resource without a filter leaves, whatever the responses. -/
structure RecordsResponses (client : Client) (server : Server σ) (pageLimit : Nat)
    (dumpPath : String) (start : σ) : Prop where
  /-- Of an ordinary URI the one response decides. -/
  uri : ∀ uri response last, uri ≠ MachineConfig.collectionUri →
    Responds client server uri [] start response last →
    ∃ body outcome, Carries response body ∧
      Fetch.all (client.cluster server pageLimit) [⟨uri, dumpPath, ""⟩] start = (outcome, last) ∧
        Records uri dumpPath response.status body outcome
  /-- Of the collection the first page that does not lead on decides, whichever it is. -/
  page : ∀ state token items pages response last,
    Reaches client server start state token items pages → pages < pageLimit →
    RespondsPage client server token state response last →
    ∃ body, Carries response body ∧
      ((∃ trimmed further, LeadsOn response.status body trimmed further) ∨
        ∃ outcome,
          Fetch.all (client.cluster server pageLimit)
              [⟨MachineConfig.collectionUri, dumpPath, ""⟩] start = (outcome, last) ∧
            RecordsPage dumpPath items response.status body outcome)

theorem all_recordsResponses (client : Client) (server : Server σ) (pageLimit : Nat)
    (dumpPath : String) (start : σ) :
    RecordsResponses client server pageLimit dumpPath start where
  uri uri response last huri hresponds := by
    have hstrategy : strategyFor uri = .plain := if_neg huri
    rw [Fetch.all, after_singleton, hstrategy, body_plain_of_responds hresponds]
    exact ⟨_, _, carries_content response, rfl, records_note uri dumpPath response⟩
  page state token items pages response last hreaches hpages hresponds := by
    obtain ⟨more, rfl⟩ : ∃ more, pageLimit = pages + (more + 1) :=
      ⟨pageLimit - pages - 1, by omega⟩
    have hpage := leadsOn_or_recordsPage hresponds dumpPath items more (pages + (more + 1))
    refine ⟨_, carries_content response, hpage.imp_right ?_⟩
    rintro ⟨answer, hlist, hrecords⟩
    have hstrategy : strategyFor MachineConfig.collectionUri = .machineConfigs := if_pos rfl
    have hlimit : (client.cluster server (pages + (more + 1))).pageLimit = pages + (more + 1) := rfl
    refine ⟨_, ?_, hrecords⟩
    rw [Fetch.all, after_singleton, hstrategy, body_machineConfigs, hlimit,
      listFrom_of_reaches hreaches, hlist]
    rfl

end ClusterEvidence.Http
