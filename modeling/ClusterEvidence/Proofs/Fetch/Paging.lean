import ClusterEvidence.Proofs.Fetch.Run
import ClusterEvidence.Proofs.Fetch.Source
import ClusterEvidence.Proofs.MachineConfig
import ClusterEvidence.Proofs.Traverse
import Mathlib.Data.List.Chain

/-!
# Listing machine configurations page by page

A listing is a conversation with a cluster whose answers may depend on anything, its state
included. Each turn is a request for a page and the answer to it; what a turn comes to is whether it
leads to a further one (`Turn.Leads`), fails (`Turn.Fails`) or ends the listing. The conversation is
followed one turn at a time, and from each page on the rest is a listing again, so that the tokens,
the items and the failure of the whole are put together by `Listing.cons` and `Comes.cons`. A
conversation that ended is the only one there is, whatever number of pages may be asked for
(`Listing.unique`).

Nothing of a listing that fails is kept. So the collection fetched on its own leaves all of its
items or none (`Fetched`).

## Main results

* `listFrom_listing` — the turns of a listing and what it comes to.
* `exists_streamsPages` — which pages are asked for, when the list is complete, that it is read
  back, and what a fetch of the collection leaves.
-/

namespace ClusterEvidence.Fetch

open Cluster

variable {σ : Type} {cluster : Cluster σ} {state last : σ} {token : Option String}

/-! ## Turns -/

/-- A request for a page and the answer to it. -/
structure Turn where
  /-- The token of the page; none for the first. -/
  token : Option String
  answer : Except Failure Page

namespace Turn

/-- The request of a turn. -/
def request (turn : Turn) : Request := pageRequest turn.token

/-- A page whose items all trim leads to the page of its token. -/
def Leads (turn : Turn) (token : String) : Prop :=
  ∃ (page : Page) (trimmed : List Json), turn.answer = .ok page ∧
    page.items.map MachineConfig.trim = trimmed.map .ok ∧ page.next = some token

/-- A turn fails when it has no page, and when an item of its page does not trim. -/
inductive Fails (turn : Turn) : Error → Prop where
  | refused {failure} (h : turn.answer = .error failure) :
      Fails turn (.fetch MachineConfig.collectionUri failure)
  /-- The first item that does not trim is named. -/
  | untrimmed {page front item rest fault} (h : turn.answer = .ok page)
      (hitems : page.items = front ++ item :: rest)
      (hfront : ∀ earlier ∈ front, ∃ trimmed, MachineConfig.trim earlier = .ok trimmed)
      (hitem : MachineConfig.trim item =
        .error (.machineConfig (MachineConfig.name item) fault)) :
      Fails turn (.machineConfig (MachineConfig.name item) fault)

end Turn

/-- The last turn does not lead on. -/
def Ended (turns : List Turn) : Prop := ∃ turn ∈ turns.getLast?, ∀ token, ¬ turn.Leads token

/-- A cluster answers the requests of turns, one after another. -/
inductive Converses (cluster : Cluster σ) : σ → List Turn → σ → Prop where
  | nil {state : σ} : Converses cluster state [] state
  | cons {state next last : σ} {turn : Turn} {turns : List Turn}
      (h : cluster.listPage MachineConfig.collectionUri pageSize turn.token state =
        (turn.answer, next))
      (hrest : Converses cluster next turns last) : Converses cluster state (turn :: turns) last

/-- The turns of a listing from the page of a token on, in at most so many pages. -/
structure Listing (cluster : Cluster σ) (token : Option String) (state : σ) (pages : Nat)
    (turns : List Turn) (last : σ) : Prop where
  converses : Converses cluster state turns last
  first : ∀ turn ∈ turns.head?, turn.token = token
  /-- Every other page is asked for with the token of the page before. -/
  chained : turns.IsChain fun turn next => ∃ token, turn.Leads token ∧ next.token = some token
  length_le : turns.length ≤ pages
  /-- There is a further turn as long as turns lead on and a further page may be asked for. -/
  stops : turns.length < pages → Ended turns

/-! ## What a listing comes to -/

/-- Pages that are a whole collection, with their trimmed items in order. -/
structure Whole (pages : List Page) (items : List Json) : Prop where
  last : ∃ page ∈ pages.getLast?, page.next = none
  others : ∀ page ∈ pages.dropLast, page.next ≠ none
  items : (pages.flatMap (·.items)).map MachineConfig.trim = items.map .ok

/-- The answers of turns are a whole collection. -/
def Complete (turns : List Turn) (items : List Json) : Prop :=
  ∃ pages, turns.map (·.answer) = pages.map .ok ∧ Whole pages items

/-- What a listing in at most so many pages comes to, after some items. -/
inductive Comes (pages : Nat) (items : List Json) (turns : List Turn) :
    Except Error (List Json) → Prop where
  | complete {new} (h : Complete turns new) : Comes pages items turns (.ok (items ++ new))
  | failed {turn e} (hlast : turn ∈ turns.getLast?) (h : turn.Fails e) :
      Comes pages items turns (.error e)
  /-- The pages that a listing can have were not enough. -/
  | endless (hlength : turns.length = pages)
      (h : ∀ turn ∈ turns.getLast?, ∃ token, turn.Leads token) :
      Comes pages items turns (.error (.endlessListing MachineConfig.collectionUri))

/-! ## One turn -/

section
variable {turn : Turn} {turns : List Turn} {page : Page} {trimmed items : List Json}

private theorem mem_getLast?_cons {turn' : Turn} (h : turn' ∈ turns.getLast?) :
    turn' ∈ (turn :: turns).getLast? := by
  rw [Option.mem_def] at h ⊢
  rw [List.getLast?_cons, h]
  rfl

/-- Not all items of the page of a turn that fails trim. -/
private theorem Turn.Fails.not_trims {e : Error} (h : turn.Fails e)
    (hpage : turn.answer = .ok page) :
    page.items.map MachineConfig.trim ≠ trimmed.map .ok := by
  intro htrim
  cases h with
  | refused hrefused =>
      rw [hrefused] at hpage
      cases hpage
  | @untrimmed _ front item rest fault hanswer hitems hfront hitem =>
      rw [hanswer, Except.ok.injEq] at hpage
      subst hpage
      have hmem : MachineConfig.trim item ∈ trimmed.map .ok := by
        rw [← htrim, hitems]
        simp
      rw [hitem] at hmem
      simp at hmem

private theorem Turn.Fails.not_leads {e : Error} (h : turn.Fails e) (token : String) :
    ¬ turn.Leads token := by
  rintro ⟨page, trimmed, hpage, htrim, _⟩
  exact h.not_trims hpage htrim

private theorem Turn.not_leads_of_last (h : turn.answer = .ok page) (hnext : page.next = none)
    (token : String) : ¬ turn.Leads token := by
  rintro ⟨page', _, hpage, _, hsome⟩
  rw [h, Except.ok.injEq] at hpage
  subst hpage
  rw [hnext] at hsome
  cases hsome

/-- A turn leads to one page. -/
theorem Turn.Leads.unique {token token' : String} (h : turn.Leads token)
    (h' : turn.Leads token') : token = token' := by
  obtain ⟨page, _, hpage, _, hnext⟩ := h
  obtain ⟨page', _, hpage', _, hnext'⟩ := h'
  rw [hpage, Except.ok.injEq] at hpage'
  subst hpage'
  rw [hnext, Option.some.injEq] at hnext'
  exact hnext'

/-- A page whose items do not all trim fails with the first that does not. -/
theorem Turn.Fails.of_mapAll {e : Error} (h : turn.answer = .ok page)
    (htrim : mapAll MachineConfig.trim page.items = .error e) : turn.Fails e := by
  obtain ⟨front, item, rest, hitems, hfront, hitem⟩ := exists_of_mapAll_eq_error htrim
  obtain ⟨fault, rfl⟩ := MachineConfig.exists_of_trim_eq_error hitem
  exact .untrimmed h hitems hfront hitem

private theorem complete_last (h : turn.answer = .ok page)
    (htrim : page.items.map MachineConfig.trim = trimmed.map .ok) (hnext : page.next = none) :
    Complete [turn] trimmed :=
  ⟨[page], by simp [h],
    { last := ⟨page, rfl, hnext⟩
      others := by simp
      items := by simpa using htrim }⟩

/-- The last page of a whole collection trims and leads nowhere. -/
private theorem Complete.exists_last (h : Complete turns items) :
    ∃ turn ∈ turns.getLast?, ∃ (page : Page) (trimmed : List Json), turn.answer = .ok page ∧
      page.items.map MachineConfig.trim = trimmed.map .ok ∧ page.next = none := by
  obtain ⟨pages, hpages, ⟨page, hpage, hnext⟩, _, hitems⟩ := h
  have hlast : (turns.map (·.answer)).getLast? = some (.ok page) := by
    rw [hpages, List.getLast?_map, hpage]
    rfl
  rw [List.getLast?_map, Option.map_eq_some_iff] at hlast
  obtain ⟨turn, hturn, hanswer⟩ := hlast
  cases htrim : mapAll MachineConfig.trim page.items with
  | ok trimmed => exact ⟨turn, hturn, page, trimmed, hanswer, mapAll_eq_ok_iff.1 htrim, hnext⟩
  | error e =>
      obtain ⟨front, item, rest, hsplit, _, hitem⟩ := exists_of_mapAll_eq_error htrim
      have hmem : item ∈ pages.flatMap (·.items) :=
        List.mem_flatMap.2 ⟨page, List.mem_of_getLast? hpage, by simp [hsplit]⟩
      have htrimmed := List.mem_map_of_mem (f := MachineConfig.trim) hmem
      rw [hitems, hitem] at htrimmed
      simp at htrimmed

/-- A collection has one list of items. -/
theorem Complete.unique {others : List Json} (h : Complete turns items)
    (h' : Complete turns others) : items = others := by
  obtain ⟨pages, hpages, hwhole⟩ := h
  obtain ⟨pages', hpages', hwhole'⟩ := h'
  have hsame : pages = pages' := by
    rw [hpages] at hpages'
    exact List.map_injective_iff.2 (fun _ _ => Except.ok.inj) hpages'
  subst hsame
  have hitems := hwhole.items.symm.trans hwhole'.items
  exact List.map_injective_iff.2 (fun _ _ => Except.ok.inj) hitems

/-- A page that leads on stands in front of the others. -/
theorem Complete.cons {next : String} (h : turn.answer = .ok page)
    (htrim : page.items.map MachineConfig.trim = trimmed.map .ok) (hnext : page.next = some next)
    (hrest : Complete turns items) : Complete (turn :: turns) (trimmed ++ items) := by
  obtain ⟨pages, hpages, ⟨lastPage, hlast, hnone⟩, hothers, hitems⟩ := hrest
  refine ⟨page :: pages, by simp [h, hpages], ⟨lastPage, ?_, hnone⟩, ?_, ?_⟩
  · rw [Option.mem_def] at hlast ⊢
    rw [List.getLast?_cons, hlast]
    rfl
  · have hne : pages ≠ [] := by
      rintro rfl
      cases hlast
    rw [List.dropLast_cons_of_ne_nil hne]
    intro other hother
    rcases List.mem_cons.1 hother with rfl | hother
    · simp [hnext]
    · exact hothers other hother
  · rw [List.flatMap_cons, List.map_append, htrim, hitems, List.map_append]

/-- What the rest of a listing comes to, the whole comes to. -/
theorem Comes.cons {pages : Nat} {next : String} {answer : Except Error (List Json)}
    (h : turn.answer = .ok page) (htrim : page.items.map MachineConfig.trim = trimmed.map .ok)
    (hnext : page.next = some next) (hrest : Comes pages (items ++ trimmed) turns answer) :
    Comes (pages + 1) items (turn :: turns) answer := by
  cases hrest with
  | complete hcomplete =>
      rw [List.append_assoc]
      exact .complete (hcomplete.cons h htrim hnext)
  | failed hlast hfails => exact .failed (mem_getLast?_cons hlast) hfails
  | endless hlength hleads =>
      refine .endless (by simp [hlength]) fun last hlast => ?_
      cases hturns : turns.getLast? with
      | none =>
          rw [Option.mem_def, List.getLast?_cons, hturns, Option.some.injEq] at hlast
          subst hlast
          exact ⟨next, page, trimmed, h, htrim, hnext⟩
      | some last' =>
          rw [Option.mem_def, List.getLast?_cons, hturns, Option.some.injEq] at hlast
          subst hlast
          exact hleads _ hturns

end

/-! ## The conversation -/

/-- A listing of one turn, which does not lead on. -/
private theorem Listing.one {pages : Nat} {turn : Turn} {next : σ} (htoken : turn.token = token)
    (h : cluster.listPage MachineConfig.collectionUri pageSize token state = (turn.answer, next))
    (hlast : ∀ token, ¬ turn.Leads token) :
    Listing cluster token state (pages + 1) [turn] next where
  converses := .cons (htoken ▸ h) .nil
  first := by simpa using htoken
  chained := .singleton turn
  length_le := by simp
  stops := fun _ => ⟨turn, rfl, hlast⟩

/-- A turn that leads to the first page of a listing stands in front of it. -/
theorem Listing.cons {pages : Nat} {turn : Turn} {turns : List Turn} {further : String} {next : σ}
    (htoken : turn.token = token)
    (h : cluster.listPage MachineConfig.collectionUri pageSize token state = (turn.answer, next))
    (hleads : turn.Leads further) (hrest : Listing cluster (some further) next pages turns last) :
    Listing cluster token state (pages + 1) (turn :: turns) last where
  converses := .cons (htoken ▸ h) hrest.converses
  first := by simpa using htoken
  chained := List.isChain_cons.2
    ⟨fun second hsecond => ⟨further, hleads, hrest.first second hsecond⟩, hrest.chained⟩
  length_le := by simpa using hrest.length_le
  stops := fun hlength => by
    obtain ⟨lastTurn, hlast, hnot⟩ := hrest.stops (Nat.lt_of_succ_lt_succ hlength)
    exact ⟨lastTurn, mem_getLast?_cons hlast, hnot⟩

/-- The first turn is the answer to the request for the first page. -/
private theorem Listing.head_eq {pages : Nat} {turn : Turn} {turns : List Turn}
    (h : Listing cluster token state pages (turn :: turns) last) :
    turn =
      ⟨token, (cluster.listPage MachineConfig.collectionUri pageSize token state).1⟩ := by
  have htoken := h.first turn rfl
  cases h.converses with
  | cons hask =>
      rw [htoken] at hask
      rw [hask, ← htoken]

private theorem Listing.last_eq {pages : Nat} {turn : Turn}
    (h : Listing cluster token state pages [turn] last) :
    last = (cluster.listPage MachineConfig.collectionUri pageSize token state).2 := by
  have htoken := h.first turn rfl
  cases h.converses with
  | cons hask hrest =>
      cases hrest
      rw [htoken] at hask
      rw [hask]

private theorem ended_cons_cons {turn second : Turn} {turns : List Turn} :
    Ended (turn :: second :: turns) ↔ Ended (second :: turns) := by
  rw [Ended, Ended, List.getLast?_cons_cons]

private theorem not_ended_of_leads {turn : Turn} {further : String} (h : turn.Leads further) :
    ¬ Ended [turn] := by
  rintro ⟨last, hlast, hnot⟩
  cases hlast
  exact hnot further h

/-- What follows the first of several turns is a listing from the page that it leads to. -/
private theorem Listing.tail {pages : Nat} {turn second : Turn} {turns : List Turn}
    (h : Listing cluster token state pages (turn :: second :: turns) last) :
    ∃ further, turn.Leads further ∧
      Listing cluster (some further)
        (cluster.listPage MachineConfig.collectionUri pageSize token state).2 (pages - 1)
        (second :: turns) last := by
  have htoken := h.first turn rfl
  have hlength := h.length_le
  obtain ⟨⟨further, hleads, hsecond⟩, hchained⟩ := List.isChain_cons_cons.1 h.chained
  cases h.converses with
  | cons hask hrest =>
      rw [htoken] at hask
      rw [hask]
      refine ⟨further, hleads, hrest, by simpa using hsecond, hchained, ?_, fun hmore => ?_⟩
      · simp only [List.length_cons] at hlength ⊢
        omega
      · refine ended_cons_cons.1 (h.stops ?_)
        simp only [List.length_cons] at hmore ⊢
        omega

/-- A listing that ended is the only one where there are as many pages as it has. -/
theorem Listing.unique {pages more : Nat} {turns others : List Turn} {final : σ}
    (h : Listing cluster token state pages turns last) (hended : Ended turns)
    (hother : Listing cluster token state more others final) (hle : turns.length ≤ more) :
    others = turns ∧ final = last := by
  induction turns generalizing token state pages more others with
  | nil =>
      obtain ⟨turn, hturn, _⟩ := hended
      cases hturn
  | cons turn turns ih =>
      simp only [List.length_cons] at hle
      cases others with
      | nil =>
          obtain ⟨turn, hturn, _⟩ := hother.stops (by simp only [List.length_nil]; omega)
          cases hturn
      | cons turn' others =>
          obtain rfl : turn' = turn := hother.head_eq.trans h.head_eq.symm
          cases turns with
          | nil =>
              cases others with
              | nil => exact ⟨rfl, hother.last_eq.trans h.last_eq.symm⟩
              | cons second others =>
                  obtain ⟨further, hleads, _⟩ := hother.tail
                  exact absurd hended (not_ended_of_leads hleads)
          | cons second turns =>
              obtain ⟨further, hleads, hrest⟩ := h.tail
              simp only [List.length_cons] at hle
              cases others with
              | nil =>
                  have hstop := hother.stops (by simp only [List.length_singleton]; omega)
                  exact absurd hstop (not_ended_of_leads hleads)
              | cons second' others =>
                  obtain ⟨further', hleads', hrest'⟩ := hother.tail
                  obtain rfl := hleads'.unique hleads
                  have hfewer : (second :: turns).length ≤ more - 1 := by
                    simp only [List.length_cons]
                    omega
                  obtain ⟨hturns, hfinal⟩ :=
                    ih hrest (ended_cons_cons.1 hended) hrest' hfewer
                  exact ⟨by rw [hturns], hfinal⟩

/-- The turns of a listing and what it comes to. -/
theorem listFrom_listing (cluster : Cluster σ) (pages : Nat) (token : Option String)
    (items : List Json) (state : σ) (log : List Request) :
    ∃ turns last answer,
      listFrom cluster.logging pages token items (state, log) =
        (answer, last, log ++ turns.map Turn.request) ∧
      Listing cluster token state pages turns last ∧ Comes pages items turns answer := by
  induction pages generalizing token items state log with
  | zero =>
      refine ⟨[], state, _, ?_, ?_, .endless rfl (by simp)⟩
      · rw [List.map_nil, List.append_nil]
        rfl
      · exact ⟨.nil, by simp, .nil, Nat.le_refl 0, fun h => absurd h (Nat.lt_irrefl 0)⟩
  | succ pages ih =>
      rcases hask : cluster.listPage MachineConfig.collectionUri pageSize token state with
        ⟨answer, next⟩
      have hlogging :
          cluster.logging.listPage MachineConfig.collectionUri pageSize token (state, log) =
            ((cluster.listPage MachineConfig.collectionUri pageSize token state).1,
              (cluster.listPage MachineConfig.collectionUri pageSize token state).2,
              log ++ [pageRequest token]) := rfl
      rw [listFrom_succ, hlogging, hask]
      cases answer with
      | error failure =>
          have hfails : (Turn.mk token (.error failure)).Fails _ := .refused rfl
          exact ⟨[⟨token, _⟩], next, _, rfl, .one rfl hask hfails.not_leads,
            .failed rfl hfails⟩
      | ok page =>
          dsimp only
          cases htrim : mapAll MachineConfig.trim page.items with
          | error e =>
              have hfails : (Turn.mk token (.ok page)).Fails e := .of_mapAll rfl htrim
              exact ⟨[⟨token, _⟩], next, _, rfl, .one rfl hask hfails.not_leads,
                .failed rfl hfails⟩
          | ok trimmed =>
              have htrims := mapAll_eq_ok_iff.1 htrim
              dsimp only
              cases hnext : page.next with
              | none =>
                  have hlast : ∀ further, ¬ (Turn.mk token (.ok page)).Leads further :=
                    Turn.not_leads_of_last rfl hnext
                  exact ⟨[⟨token, _⟩], next, _, rfl, .one rfl hask hlast,
                    .complete (complete_last rfl htrims hnext)⟩
              | some further =>
                  obtain ⟨turns, last, answer, hlist, hlisting, hcomes⟩ :=
                    ih (some further) (items ++ trimmed) next (log ++ [pageRequest token])
                  have hleads : (Turn.mk token (.ok page)).Leads further :=
                    ⟨page, trimmed, rfl, htrims, hnext⟩
                  refine ⟨⟨token, .ok page⟩ :: turns, last, answer, ?_,
                    hlisting.cons rfl hask hleads,
                    hcomes.cons rfl htrims hnext⟩
                  refine hlist.trans ?_
                  rw [List.append_assoc]
                  rfl

/-! ## The body -/

/-- Listing depends on the answers for pages alone. -/
private theorem listFrom_congr {other : Cluster σ} (hpage : other.listPage = cluster.listPage)
    (pages : Nat) (token : Option String) (items : List Json) (state : σ) :
    listFrom other pages token items state = listFrom cluster pages token items state := by
  induction pages generalizing token items state with
  | zero => rfl
  | succ pages ih =>
      rw [listFrom_succ, listFrom_succ, hpage]
      simp only [ih]

theorem body_machineConfigs (cluster : Cluster σ) (uri : String) (state : σ) :
    body cluster .machineConfigs uri state =
      ((listFrom cluster cluster.pageLimit none [] state).1.map fun items =>
          (MachineConfig.list items).prettyBytes,
        (listFrom cluster cluster.pageLimit none [] state).2) := by
  rcases hlist : listFrom cluster cluster.pageLimit none [] state with ⟨answer, next⟩
  simp only [body, bind, StateT.bind, hlist]
  cases answer <;> rfl

theorem prettyBytes_list_ne_nil (items : List Json) :
    (MachineConfig.list items).prettyBytes ≠ [] := by
  rw [MachineConfig.list, Json.prettyBytes, Json.indented, List.cons_append, List.cons_append,
    Text.encode_ascii (by decide)]
  exact List.cons_ne_nil _ _

/-! ## The fetch -/

/-- What fetching the collection alone leaves: the whole of it, a warning, a warning and a marker,
or an error. -/
inductive Fetched (dumpPath : String) : Except Error Bytes → Except Error Outcome → Prop where
  | stored {body} :
      Fetched dumpPath (.ok body) (.ok ⟨.insert .empty dumpPath body, []⟩)
  | missing {uri reason message} :
      Fetched dumpPath (.error (.fetch uri (.notFound reason message)))
        (.ok ⟨.insert .empty dumpPath (Text.encodeString ("# kube-api-error=" ++ reason)),
          [failureWarning uri (.notFound reason message)]⟩)
  | denied {uri message} :
      Fetched dumpPath (.error (.fetch uri (.forbidden message)))
        (.ok ⟨.empty, [failureWarning uri (.forbidden message)]⟩)
  | unserved {uri message} :
      Fetched dumpPath (.error (.fetch uri (.noKindMatch message)))
        (.ok ⟨.empty, [failureWarning uri (.noKindMatch message)]⟩)
  | aborted {e} (h : ¬ Tolerated e) : Fetched dumpPath (.error e) (.error e)

/-- The collection is stored whole, and of a failure nothing but the failure is noted. -/
private theorem fetched_note {uri dumpPath : String} {answer : Except Error Bytes}
    (h : answer ≠ .ok []) :
    Fetched dumpPath answer (note ⟨uri, dumpPath, ""⟩ answer .empty) := by
  have haborted {e : Error} (he : note ⟨uri, dumpPath, ""⟩ (.error e) .empty = .error e)
      (hnot : ¬ Tolerated e) :
      Fetched dumpPath (.error e) (note ⟨uri, dumpPath, ""⟩ (.error e) .empty) := by
    rw [he]
    exact .aborted hnot
  cases answer with
  | ok body =>
      cases body with
      | nil => exact absurd rfl h
      | cons b body => exact .stored
  | error e =>
      cases e with
      | fetch source failure =>
          cases failure with
          | notFound reason message =>
              show Fetched dumpPath _ (.ok ⟨.insert .empty dumpPath (Outcome.marker reason), _⟩)
              rw [Outcome.marker_eq]
              exact .missing
          | forbidden message => exact .denied
          | noKindMatch message => exact .unserved
          | _ =>
              refine haborted rfl ?_
              rintro ⟨_, _, heq, htolerated⟩
              cases heq
              cases htolerated
      | _ =>
          refine haborted rfl ?_
          rintro ⟨_, _, heq, _⟩
          cases heq

/-- One resource on its own. -/
theorem after_singleton (cluster : Cluster σ) (dispatch : String → Strategy) (resource : Resource)
    (outcome : Outcome) (state : σ) :
    after cluster dispatch [resource] outcome state =
      (note resource (body cluster (dispatch resource.uri) resource.uri state).1 outcome,
        (body cluster (dispatch resource.uri) resource.uri state).2) := by
  rw [after_cons]
  dsimp only
  cases note resource (body cluster (dispatch resource.uri) resource.uri state).1 outcome <;> rfl

/-! ## Streaming the collection -/

/-- What a conversation leaves: the list of the items of its pages when these are a whole
collection, and no body otherwise. -/
structure LeavesList (turns : List Turn) (answer : Except Error Bytes) : Prop where
  /-- There is a body when every page is answered and every item trims. -/
  succeeds : (∃ bytes, answer = .ok bytes) ↔ ∃ items, Complete turns items
  /-- The body is the text of the list of all items. -/
  prints : ∀ bytes items, answer = .ok bytes → Complete turns items →
    ∃ document, MachineConfig.IsList document items ∧ bytes = document.prettyBytes
  /-- The body is read back when the items of the pages can be printed. -/
  readsBack : ∀ bytes items, answer = .ok bytes → Complete turns items →
    (∀ turn ∈ turns, ∀ page, turn.answer = .ok page →
      ∀ item ∈ page.items, Json.Printable (Json.maxDepth - 2) item) →
    ∃ document found, Json.read bytes = .ok document ∧ MachineConfig.IsList document found ∧
      MachineConfig.EqualItems items found

/-- What is known of the turns of streaming all machine configurations, of the body that they give
and of a fetch of the collection. -/
structure StreamsPages (cluster : Cluster σ) (state : σ) (turns : List Turn) (last : σ)
    (answer : Except Error Bytes) : Prop where
  reads : body cluster.logging .machineConfigs MachineConfig.collectionUri (state, []) =
    (answer, last, turns.map Turn.request)
  listing : Listing cluster none state cluster.pageLimit turns last
  leaves : LeavesList turns answer
  fails : ∀ e, answer = .error e → (∃ turn ∈ turns.getLast?, turn.Fails e) ∨
    e = .endlessListing MachineConfig.collectionUri ∧ turns.length = cluster.pageLimit ∧
      ∀ turn ∈ turns.getLast?, ∃ token, turn.Leads token
  /-- A conversation that ended, of whatever length, is what streaming goes through wherever so many
  pages may be asked for. -/
  anyLength : ∀ ended final, Listing cluster none state ended.length ended final → Ended ended →
    ∀ pages, ended.length ≤ pages →
      ∃ result, body { cluster with pageLimit := pages }.logging .machineConfigs
          MachineConfig.collectionUri (state, []) = (result, final, ended.map Turn.request) ∧
        LeavesList ended result
  fetched : ∀ dumpPath, let resource := ⟨MachineConfig.collectionUri, dumpPath, ""⟩
    requestsFor cluster strategyFor [resource] state = turns.map Turn.request ∧
      Fetched dumpPath answer (answerTo cluster strategyFor [resource] state)

/-- The items of a collection whose pages can be printed can be printed. -/
private theorem Complete.printable {turns : List Turn} {items : List Json} {room : Nat}
    (h : Complete turns items)
    (hprintable : ∀ turn ∈ turns, ∀ page, turn.answer = .ok page →
      ∀ item ∈ page.items, Json.Printable room item) :
    ∀ item ∈ items, Json.Printable room item := by
  obtain ⟨pages, hpages, hwhole⟩ := h
  intro trimmed htrimmed
  have hmem : (.ok trimmed : Except Error Json) ∈ items.map .ok := List.mem_map_of_mem htrimmed
  rw [← hwhole.items] at hmem
  obtain ⟨item, hitem, htrim⟩ := List.mem_map.1 hmem
  obtain ⟨page, hpage, hitem⟩ := List.mem_flatMap.1 hitem
  have hanswer : (.ok page : Except Failure Page) ∈ turns.map (·.answer) :=
    hpages ▸ List.mem_map_of_mem hpage
  obtain ⟨turn, hturn, hanswer⟩ := List.mem_map.1 hanswer
  exact MachineConfig.printable_trim htrim (hprintable turn hturn page hanswer item hitem)

/-- What a listing comes to is the answer exactly when it is whole. -/
private theorem Comes.eq_ok_iff {pages : Nat} {turns : List Turn}
    {answer : Except Error (List Json)} (h : Comes pages [] turns answer) (items : List Json) :
    answer = .ok items ↔ Complete turns items := by
  cases h with
  | complete h =>
      rw [List.nil_append, Except.ok.injEq]
      exact ⟨fun heq => heq ▸ h, h.unique⟩
  | failed hlast hfails =>
      refine ⟨fun heq => (by cases heq), fun hcomplete => ?_⟩
      obtain ⟨turn, hturn, page, trimmed, hpage, htrim, _⟩ := hcomplete.exists_last
      obtain rfl := Option.mem_unique hlast hturn
      exact absurd htrim (hfails.not_trims hpage)
  | endless _ hleads =>
      refine ⟨fun heq => (by cases heq), fun hcomplete => ?_⟩
      obtain ⟨turn, hturn, page, _, hpage, _, hnext⟩ := hcomplete.exists_last
      obtain ⟨token, htoken⟩ := hleads turn hturn
      exact absurd htoken (Turn.not_leads_of_last hpage hnext token)

/-- What a listing comes to is printed as one list. -/
private theorem Comes.leavesList {pages : Nat} {turns : List Turn}
    {answer : Except Error (List Json)} (h : Comes pages [] turns answer) :
    LeavesList turns (answer.map fun items => (MachineConfig.list items).prettyBytes) := by
  have hbody {items : List Json} (hitems : Complete turns items) :
      (answer.map fun items => (MachineConfig.list items).prettyBytes) =
        .ok (MachineConfig.list items).prettyBytes := by
    rw [(h.eq_ok_iff items).2 hitems]
    rfl
  refine ⟨⟨?_, fun ⟨items, hitems⟩ => ⟨_, hbody hitems⟩⟩, ?_, ?_⟩
  · rintro ⟨bytes, hbytes⟩
    cases answer with
    | error e => cases hbytes
    | ok items => exact ⟨items, (h.eq_ok_iff items).1 rfl⟩
  · intro bytes items hbytes hitems
    rw [hbody hitems, Except.ok.injEq] at hbytes
    exact ⟨_, MachineConfig.isList_list items, hbytes.symm⟩
  · intro bytes items hbytes hitems hprintable
    rw [hbody hitems, Except.ok.injEq] at hbytes
    have hitem := hitems.printable hprintable
    obtain ⟨document, hread, heq⟩ := (MachineConfig.printable_list hitem).read_prettyBytes
    obtain ⟨found, hlist, hfound⟩ := (MachineConfig.isList_list items).of_equal heq
    exact ⟨document, found, hbytes ▸ hread, hlist, hfound⟩

/-- Streaming all machine configurations. -/
theorem exists_streamsPages (cluster : Cluster σ) (state : σ) :
    ∃ turns last answer, StreamsPages cluster state turns last answer := by
  obtain ⟨turns, last, answer, hlist, hlisting, hcomes⟩ :=
    listFrom_listing cluster cluster.pageLimit none [] state []
  rw [List.nil_append] at hlist
  have hlimit : cluster.logging.pageLimit = cluster.pageLimit := rfl
  have hreads : body cluster.logging .machineConfigs MachineConfig.collectionUri (state, []) =
      (answer.map fun items => (MachineConfig.list items).prettyBytes, last,
        turns.map Turn.request) := by
    rw [body_machineConfigs, hlimit, hlist]
  refine ⟨turns, last, _, hreads, hlisting, hcomes.leavesList, fun e he => ?_,
    fun ended final hended hlast pages hpages => ?_, fun dumpPath => ?_⟩
  · cases hcomes with
    | complete h => cases he
    | failed hlast hfails =>
        cases he
        exact .inl ⟨_, hlast, hfails⟩
    | endless hlength hleads =>
        cases he
        exact .inr ⟨rfl, hlength, hleads⟩
  · obtain ⟨others, final', result, hlist', hlisting', hcomes'⟩ :=
      listFrom_listing cluster pages none [] state []
    obtain ⟨rfl, rfl⟩ := hended.unique hlast hlisting' hpages
    refine ⟨_, ?_, hcomes'.leavesList⟩
    have hpage : { cluster with pageLimit := pages }.logging.listPage = cluster.logging.listPage :=
      rfl
    have hmore : { cluster with pageLimit := pages }.logging.pageLimit = pages := rfl
    rw [body_machineConfigs, hmore, listFrom_congr hpage, hlist']
    rfl
  · have hstrategy : strategyFor MachineConfig.collectionUri = .machineConfigs := if_pos rfl
    have hbody : (answer.map fun items => (MachineConfig.list items).prettyBytes) ≠ .ok [] := by
      cases answer with
      | error e => simp [Except.map]
      | ok items => simp [Except.map, prettyBytes_list_ne_nil]
    dsimp only
    rw [requestsFor, answerTo_eq, after_singleton, hstrategy, hreads]
    exact ⟨rfl, fetched_note hbody⟩

/-- Two pages, of which the second has the empty token. -/
def twoPages : Cluster Unit where
  listNodes := fun _ => (.ok [], ())
  getRaw := fun _ _ => (.ok [], ())
  listPage := fun _ _ token _ => (.ok ⟨[], if token = none then some "" else none⟩, ())
  pageLimit := 2

-- An empty token is handed on like any other.
example :
    requestsFor twoPages strategyFor [⟨MachineConfig.collectionUri, "/machineconfigs", ""⟩] () =
      [pageRequest none, pageRequest (some "")] := rfl

end ClusterEvidence.Fetch
