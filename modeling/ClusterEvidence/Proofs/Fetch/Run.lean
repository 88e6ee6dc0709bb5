import ClusterEvidence.Proofs.Fetch.Answer
import ClusterEvidence.Proofs.Keyed

/-!
# Fetching a list of resources

Each resource ends in one of a few ways (`Ends`): it leaves a body or none and a warning or none, or
it ends the whole fetch. Resources that all go on (`Passes`) leave what each of them leaves, one
after another; and the first resource that does not go on gives the error of the whole
(`AbortsIn`).

## Main results

* `one_logging` — fetching one resource does what the way says in which it ends.
* `fetch_eachOnItsOwn` — what a list of resources leaves, which requests are made for it, and that a
  resource with a tolerated failure takes no part in what the others leave.
-/

namespace ClusterEvidence.Fetch

open Cluster

variable {σ : Type}

/-! ## The ways in which a resource ends -/

/-- What becomes of the fetch with a resource. -/
inductive Ending where
  /-- The fetch goes on, with a body and a warning more if there are any. -/
  | goesOn (body? : Option Bytes) (warning? : Option String)
  | aborts (error : Error)

/-- An error that is noted and does not end the fetch. -/
def Tolerated (e : Error) : Prop :=
  ∃ uri failure, e = .fetch uri failure ∧ failure.isTolerated = true

/-- The ways in which a resource can end, with the requests that are made for it. -/
inductive Ends (answers : Answers) (dispatch : String → Strategy) (resource : Resource) :
    List Request → Ending → Prop where
  /-- An object that does not exist leaves a marker. -/
  | missing {requests uri failure}
      (h : Streams answers resource.uri (dispatch resource.uri) requests
        (.error (.fetch uri failure)))
      (hmissing : failure.isNotFound = true) :
      Ends answers dispatch resource requests
        (.goesOn (some (Outcome.marker failure.reason)) (some (failureWarning uri failure)))
  /-- Any other tolerated failure leaves a warning only. -/
  | denied {requests uri failure}
      (h : Streams answers resource.uri (dispatch resource.uri) requests
        (.error (.fetch uri failure)))
      (htolerated : failure.isTolerated = true) (hfound : failure.isNotFound = false) :
      Ends answers dispatch resource requests (.goesOn none (some (failureWarning uri failure)))
  | failed {requests e}
      (h : Streams answers resource.uri (dispatch resource.uri) requests (.error e))
      (hnot : ¬ Tolerated e) :
      Ends answers dispatch resource requests (.aborts e)
  /-- An empty body leaves nothing, also where there is a filter. -/
  | empty {requests}
      (h : Streams answers resource.uri (dispatch resource.uri) requests (.ok [])) :
      Ends answers dispatch resource requests (.goesOn none none)
  | unfiltered {requests body}
      (h : Streams answers resource.uri (dispatch resource.uri) requests (.ok body))
      (hbody : body ≠ []) (hfilter : resource.filter = "") :
      Ends answers dispatch resource requests (.goesOn (some body) none)
  | malformedFilter {requests body error}
      (h : Streams answers resource.uri (dispatch resource.uri) requests (.ok body))
      (hbody : body ≠ []) (hfilter : resource.filter ≠ "")
      (hparse : Filter.parse resource.filter = .error error) :
      Ends answers dispatch resource requests
        (.aborts (.filter resource.filter (.malformed error)))
  | notJson {requests body filter fault}
      (h : Streams answers resource.uri (dispatch resource.uri) requests (.ok body))
      (hbody : body ≠ []) (hfilter : resource.filter ≠ "")
      (hparse : Filter.parse resource.filter = .ok filter)
      (hread : Json.read body = .error fault) :
      Ends answers dispatch resource requests (.aborts (.json fault))
  | filterFails {requests body filter value fault}
      (h : Streams answers resource.uri (dispatch resource.uri) requests (.ok body))
      (hbody : body ≠ []) (hfilter : resource.filter ≠ "")
      (hparse : Filter.parse resource.filter = .ok filter) (hread : Json.read body = .ok value)
      (hrun : filter.run value = .error fault) :
      Ends answers dispatch resource requests (.aborts (.filter resource.filter (.runtime fault)))
  | noResult {requests body filter value}
      (h : Streams answers resource.uri (dispatch resource.uri) requests (.ok body))
      (hbody : body ≠ []) (hfilter : resource.filter ≠ "")
      (hparse : Filter.parse resource.filter = .ok filter) (hread : Json.read body = .ok value)
      (hrun : filter.run value = .ok []) :
      Ends answers dispatch resource requests (.aborts (.filter resource.filter .noResult))
  | oneResult {requests body filter value result}
      (h : Streams answers resource.uri (dispatch resource.uri) requests (.ok body))
      (hbody : body ≠ []) (hfilter : resource.filter ≠ "")
      (hparse : Filter.parse resource.filter = .ok filter) (hread : Json.read body = .ok value)
      (hrun : filter.run value = .ok [result]) :
      Ends answers dispatch resource requests (.goesOn (some result.compactBytes) none)
  /-- Of several results the first is kept. -/
  | moreResults {requests body filter value result second others}
      (h : Streams answers resource.uri (dispatch resource.uri) requests (.ok body))
      (hbody : body ≠ []) (hfilter : resource.filter ≠ "")
      (hparse : Filter.parse resource.filter = .ok filter) (hread : Json.read body = .ok value)
      (hrun : filter.run value = .ok (result :: second :: others)) :
      Ends answers dispatch resource requests
        (.goesOn (some result.compactBytes) (some (Filter.extraResultsWarning resource.filter)))

/-- What an ending leaves under a dump path. -/
def entryOf (resource : Resource) (body? : Option Bytes) : List (String × Bytes) :=
  (body?.map fun body => (resource.dumpPath, body)).toList

/-- The outcome with bodies stored and warnings noted. -/
def extend (outcome : Outcome) (entries : List (String × Bytes)) (warnings : List String) :
    Outcome :=
  ⟨outcome.results.insertMany entries, outcome.warnings ++ warnings⟩

/-- The outcome after a resource that ended in some way. -/
def Ending.record (ending : Ending) (resource : Resource) (outcome : Outcome) :
    Except Error Outcome :=
  match ending with
  | goesOn body? warning? => .ok (extend outcome (entryOf resource body?) warning?.toList)
  | aborts error => .error error

/-! ## One resource -/

variable {cluster : Cluster σ} {answers : Answers} {dispatch : String → Strategy}
  {resource : Resource}

/-- A filter that was read is applied to a body that is JSON. -/
private theorem applyTo_of_run {source : String} {body : Bytes} {filter : Filter} {value : Json}
    (hparse : Filter.parse source = .ok filter) (hread : Json.read body = .ok value) :
    Filter.applyTo source body =
      match filter.run value with
      | .error fault => .error (.filter (.runtime fault))
      | .ok [] => .error (.filter .noResult)
      | .ok (result :: others) => .ok ⟨result.compactBytes, !others.isEmpty⟩ := by
  unfold Filter.applyTo
  rw [hparse]
  dsimp only
  rw [hread]
  dsimp only
  unfold Filter.first
  cases filter.run value with
  | error fault => rfl
  | ok results => cases results <;> rfl

/-- A body that is not empty passes the filter of its resource. -/
private theorem note_filtered {body : Bytes} (hbody : body ≠ []) (hfilter : resource.filter ≠ "")
    (outcome : Outcome) :
    note resource (.ok body) outcome =
      match Filter.applyTo resource.filter body with
      | .error (.filter fault) => .error (.filter resource.filter fault)
      | .error (.document fault) => .error (.json fault)
      | .ok filtered =>
          .ok (extend outcome (entryOf resource (some filtered.body))
            (if filtered.extraResults then [Filter.extraResultsWarning resource.filter]
              else [])) := by
  have hempty : body.isEmpty = false := by simpa using hbody
  have hhas : resource.hasFilter = true := by simp [Resource.hasFilter, hfilter]
  simp only [note, noteBody, hempty, hhas]
  cases Filter.applyTo resource.filter body with
  | error failure => cases failure <;> rfl
  | ok filtered =>
      by_cases hextra : filtered.extraResults = true
      · simp [hextra, extend, entryOf, Keyed.insertMany, Outcome.store, Outcome.warn]
      · simp [hextra, extend, entryOf, Keyed.insertMany, Outcome.store]

/-- The way in which a resource ends is what its answer comes to. -/
private theorem Ends.exists_note {requests : List Request} {ending : Ending}
    (h : Ends answers dispatch resource requests ending) :
    ∃ answer, Streams answers resource.uri (dispatch resource.uri) requests answer ∧
      ∀ outcome, note resource answer outcome = ending.record resource outcome := by
  cases h with
  | missing h hmissing =>
      refine ⟨_, h, fun outcome => ?_⟩
      simp [note, Failure.isTolerated, noteFailure, hmissing, Ending.record, extend, entryOf,
        Keyed.insertMany, Outcome.store, Outcome.warn]
  | denied h htolerated hfound =>
      refine ⟨_, h, fun outcome => ?_⟩
      simp [note, htolerated, noteFailure, hfound, Ending.record, extend, entryOf,
        Keyed.insertMany, Outcome.warn]
  | failed h hnot =>
      refine ⟨_, h, fun outcome => ?_⟩
      unfold note
      split
      · next heq => cases heq
      · next uri failure heq =>
          cases heq
          rw [if_neg fun htolerated => hnot ⟨uri, failure, rfl, htolerated⟩]
          rfl
      · next heq =>
          cases heq
          rfl
  | empty h =>
      refine ⟨_, h, fun outcome => ?_⟩
      simp [note, noteBody, Ending.record, extend, entryOf, Keyed.insertMany]
  | unfiltered h hbody hfilter =>
      refine ⟨_, h, fun outcome => ?_⟩
      have hhas : resource.hasFilter = false := by simp [Resource.hasFilter, hfilter]
      simp [note, noteBody, hbody, hhas, Ending.record, extend, entryOf, Keyed.insertMany,
        Outcome.store]
  | malformedFilter h hbody hfilter hparse =>
      refine ⟨_, h, fun outcome => ?_⟩
      rw [note_filtered hbody hfilter, Filter.applyTo, hparse]
      rfl
  | notJson h hbody hfilter hparse hread =>
      refine ⟨_, h, fun outcome => ?_⟩
      rw [note_filtered hbody hfilter, Filter.applyTo, hparse]
      dsimp only
      rw [hread]
      rfl
  | filterFails h hbody hfilter hparse hread hrun =>
      refine ⟨_, h, fun outcome => ?_⟩
      rw [note_filtered hbody hfilter, applyTo_of_run hparse hread, hrun]
      rfl
  | noResult h hbody hfilter hparse hread hrun =>
      refine ⟨_, h, fun outcome => ?_⟩
      rw [note_filtered hbody hfilter, applyTo_of_run hparse hread, hrun]
      rfl
  | oneResult h hbody hfilter hparse hread hrun =>
      refine ⟨_, h, fun outcome => ?_⟩
      rw [note_filtered hbody hfilter, applyTo_of_run hparse hread, hrun]
      rfl
  | moreResults h hbody hfilter hparse hread hrun =>
      refine ⟨_, h, fun outcome => ?_⟩
      rw [note_filtered hbody hfilter, applyTo_of_run hparse hread, hrun]
      rfl

/-- Every answer comes to one of the ways. -/
private theorem exists_ends (hend : ListingEnds cluster answers) (dispatch : String → Strategy)
    (resource : Resource) : ∃ requests ending, Ends answers dispatch resource requests ending := by
  obtain ⟨requests, answer, h⟩ := exists_streams hend (dispatch resource.uri) resource.uri
  refine ⟨requests, ?_⟩
  cases answer with
  | error e =>
      by_cases htolerated : Tolerated e
      · obtain ⟨uri, failure, rfl, htolerated⟩ := htolerated
        cases hfound : failure.isNotFound with
        | true => exact ⟨_, .missing h hfound⟩
        | false => exact ⟨_, .denied h htolerated hfound⟩
      · exact ⟨_, .failed h htolerated⟩
  | ok body =>
      by_cases hbody : body = []
      · subst hbody
        exact ⟨_, .empty h⟩
      by_cases hfilter : resource.filter = ""
      · exact ⟨_, .unfiltered h hbody hfilter⟩
      cases hparse : Filter.parse resource.filter with
      | error error => exact ⟨_, .malformedFilter h hbody hfilter hparse⟩
      | ok filter =>
          cases hread : Json.read body with
          | error fault => exact ⟨_, .notJson h hbody hfilter hparse hread⟩
          | ok value =>
              cases hrun : filter.run value with
              | error fault => exact ⟨_, .filterFails h hbody hfilter hparse hread hrun⟩
              | ok results =>
                  cases results with
                  | nil => exact ⟨_, .noResult h hbody hfilter hparse hread hrun⟩
                  | cons result others =>
                      cases others with
                      | nil => exact ⟨_, .oneResult h hbody hfilter hparse hread hrun⟩
                      | cons second others =>
                          exact ⟨_, .moreResults h hbody hfilter hparse hread hrun⟩

/-- Fetching one resource does what the way says in which it ends. -/
theorem one_logging (h : AnswersBy cluster answers) (hend : ListingEnds cluster answers)
    {requests : List Request} {ending : Ending}
    (hends : Ends answers dispatch resource requests ending)
    (outcome : Outcome) (state : σ) (log : List Request) :
    ∃ next, one cluster.logging dispatch resource outcome (state, log) =
      (ending.record resource outcome, next, log ++ requests) := by
  obtain ⟨answer, hstreams, hnote⟩ := hends.exists_note
  obtain ⟨next, hbody⟩ := body_logging h hend hstreams state log
  refine ⟨next, ?_⟩
  rw [← hnote outcome]
  simp only [one, bind, StateT.bind, hbody]
  rfl

/-- No resource ends in two ways. -/
theorem Ends.unique (h : AnswersBy cluster answers) (hend : ListingEnds cluster answers)
    (state : σ) {requests others : List Request} {ending other : Ending}
    (hends : Ends answers dispatch resource requests ending)
    (hother : Ends answers dispatch resource others other) :
    others = requests ∧ other = ending := by
  obtain ⟨_, hone⟩ := one_logging h hend hends .empty state []
  obtain ⟨_, hone'⟩ := one_logging h hend hother .empty state []
  rw [hone, List.nil_append, List.nil_append, Prod.mk.injEq, Prod.mk.injEq] at hone'
  refine ⟨hone'.2.2.symm, ?_⟩
  -- From nothing, an ending leaves nothing but itself.
  have hrecord := hone'.1
  cases ending with
  | aborts error =>
      cases other with
      | aborts error' =>
          cases hrecord
          rfl
      | goesOn => cases hrecord
  | goesOn body? warning? =>
      cases other with
      | aborts error => cases hrecord
      | goesOn body?' warning?' =>
          simp only [Ending.record, extend, Except.ok.injEq, Outcome.mk.injEq] at hrecord
          have hwarning : warning? = warning?' := by
            have hlist := hrecord.2
            cases warning? <;> cases warning?' <;> simp_all
          have hbody : body? = body?' := by
            have hget := congrArg (Keyed.get? · resource.dumpPath) hrecord.1
            simp only [Keyed.get?_insertMany] at hget
            cases body? <;> cases body?' <;>
              simp_all [entryOf, Entries.get?_cons, Outcome.empty]
          rw [hwarning, hbody]

/-! ## All resources -/

/-- Resources that all go on, with the requests that are made for them, the entries that they leave
and the warnings, each in the order of the resources. -/
inductive Passes (answers : Answers) (dispatch : String → Strategy) :
    List Resource → List Request → List (String × Bytes) → List String → Prop where
  | nil : Passes answers dispatch [] [] [] []
  | cons {resource resources own requests body? warning? entries warnings}
      (hfirst : Ends answers dispatch resource own (.goesOn body? warning?))
      (hrest : Passes answers dispatch resources requests entries warnings) :
      Passes answers dispatch (resource :: resources) (own ++ requests)
        (entryOf resource body? ++ entries) (warning?.toList ++ warnings)

/-- Resources of which the first that does not go on ends with this error; the requests are those of
the resources up to it. -/
inductive AbortsIn (answers : Answers) (dispatch : String → Strategy) :
    List Resource → List Request → Error → Prop where
  | intro {before resource later front own entries warnings error}
      (hbefore : Passes answers dispatch before front entries warnings)
      (habort : Ends answers dispatch resource own (.aborts error)) :
      AbortsIn answers dispatch (before ++ resource :: later) (front ++ own) error

variable {resources : List Resource}

/-- Of any resources, either all go on or one is the first that does not. -/
theorem passes_or_abortsIn (hend : ListingEnds cluster answers) (dispatch : String → Strategy)
    (resources : List Resource) :
    (∃ requests entries warnings, Passes answers dispatch resources requests entries warnings) ∨
      ∃ requests error, AbortsIn answers dispatch resources requests error := by
  induction resources with
  | nil => exact .inl ⟨_, _, _, .nil⟩
  | cons resource resources ih =>
      obtain ⟨own, ending, hfirst⟩ := exists_ends hend dispatch resource
      cases ending with
      | aborts error =>
          have habort : AbortsIn answers dispatch ([] ++ resource :: resources) ([] ++ own) error :=
            .intro .nil hfirst
          exact .inr ⟨_, error, habort⟩
      | goesOn body? warning? =>
          rcases ih with ⟨requests, entries, warnings, hrest⟩ | ⟨requests, error, hrest⟩
          · exact .inl ⟨_, _, _, .cons hfirst hrest⟩
          · cases hrest with
            | intro hbefore habort => exact .inr ⟨_, error, .intro (.cons hfirst hbefore) habort⟩

theorem Passes.append {others : List Resource} {requests more : List Request}
    {entries later : List (String × Bytes)} {warnings further : List String}
    (h : Passes answers dispatch resources requests entries warnings)
    (h' : Passes answers dispatch others more later further) :
    Passes answers dispatch (resources ++ others) (requests ++ more) (entries ++ later)
      (warnings ++ further) := by
  induction h with
  | nil => exact h'
  | cons hfirst _ ih =>
      have hcons := Passes.cons hfirst ih
      simpa only [List.append_assoc, List.cons_append] using hcons

theorem AbortsIn.append {requests : List Request} {error : Error}
    (h : AbortsIn answers dispatch resources requests error) (others : List Resource) :
    AbortsIn answers dispatch (resources ++ others) requests error := by
  cases h with
  | intro hbefore habort =>
      rw [List.append_assoc, List.cons_append]
      exact .intro hbefore habort

theorem AbortsIn.prepend {others : List Resource} {front requests : List Request}
    {entries : List (String × Bytes)} {warnings : List String} {error : Error}
    (h : Passes answers dispatch others front entries warnings)
    (habort : AbortsIn answers dispatch resources requests error) :
    AbortsIn answers dispatch (others ++ resources) (front ++ requests) error := by
  cases habort with
  | intro hbefore habort =>
      rw [← List.append_assoc, ← List.append_assoc]
      exact .intro (h.append hbefore) habort

/-! ## The whole fetch -/

/-- What becomes of fetching resources. -/
def answerTo (cluster : Cluster σ) (dispatch : String → Strategy) (resources : List Resource)
    (state : σ) : Except Error Outcome :=
  (after cluster dispatch resources .empty state).1

/-- The requests that are made. -/
def requestsFor (cluster : Cluster σ) (dispatch : String → Strategy) (resources : List Resource)
    (state : σ) : List Request :=
  (after cluster.logging dispatch resources .empty (state, [])).2.2

private theorem extend_extend (outcome : Outcome) (entries later : List (String × Bytes))
    (warnings further : List String) :
    extend (extend outcome entries warnings) later further =
      extend outcome (entries ++ later) (warnings ++ further) := by
  simp [extend, Keyed.insertMany, List.foldl_append, List.append_assoc]

/-- Fetching goes on after resources that all go on. -/
private theorem after_logging_append (h : AnswersBy cluster answers)
    (hend : ListingEnds cluster answers)
    {front : List Request} {entries : List (String × Bytes)} {warnings : List String}
    (hpasses : Passes answers dispatch resources front entries warnings) (rest : List Resource)
    (outcome : Outcome) (state : σ) (log : List Request) :
    ∃ next, after cluster.logging dispatch (resources ++ rest) outcome (state, log) =
      after cluster.logging dispatch rest (extend outcome entries warnings)
        (next, log ++ front) := by
  induction hpasses generalizing outcome state log with
  | nil =>
      refine ⟨state, ?_⟩
      simp [extend, Keyed.insertMany]
  | cons hfirst _ ih =>
      obtain ⟨middle, hone⟩ := one_logging h hend hfirst outcome state log
      obtain ⟨next, hrest⟩ := ih (extend outcome (entryOf _ _) _) middle (log ++ _)
      refine ⟨next, ?_⟩
      rw [List.cons_append, after]
      simp only [bind, StateT.bind, hone, Ending.record]
      rw [← List.append_assoc, ← extend_extend]
      exact hrest

/-- Resources that all go on leave what each of them leaves. -/
theorem after_logging_of_passes (h : AnswersBy cluster answers)
    (hend : ListingEnds cluster answers) {requests : List Request}
    {entries : List (String × Bytes)} {warnings : List String}
    (hpasses : Passes answers dispatch resources requests entries warnings) (state : σ)
    (log : List Request) :
    ∃ next, after cluster.logging dispatch resources .empty (state, log) =
      (.ok (extend .empty entries warnings), next, log ++ requests) := by
  obtain ⟨next, hafter⟩ := after_logging_append h hend hpasses [] .empty state log
  rw [List.append_nil] at hafter
  exact ⟨next, hafter⟩

/-- The first resource that does not go on gives the error, and nothing more is requested. -/
theorem after_logging_of_abortsIn (h : AnswersBy cluster answers)
    (hend : ListingEnds cluster answers) {requests : List Request} {error : Error}
    (haborts : AbortsIn answers dispatch resources requests error) (state : σ)
    (log : List Request) :
    ∃ next, after cluster.logging dispatch resources .empty (state, log) =
      (.error error, next, log ++ requests) := by
  cases haborts with
  | @intro before resource later front own entries warnings _ hbefore habort =>
      obtain ⟨middle, hafter⟩ := after_logging_append h hend hbefore (resource :: later) .empty
        state log
      obtain ⟨next, hone⟩ := one_logging h hend habort (extend .empty entries warnings) middle
        (log ++ front)
      refine ⟨next, ?_⟩
      rw [hafter, after, ← List.append_assoc]
      simp only [bind, StateT.bind, hone]
      rfl

/-- How fetching resources differs from fetching them without one that has a tolerated failure: it
makes the requests `own` more, and notes one warning more; and under the dump path there may be the
marker that nothing replaced. -/
structure AddsOnly (own : List Request) (warning dumpPath : String) (marker? : Option Bytes)
    (outcome without : Outcome) (requests fewer : List Request) : Prop where
  warnings : ∃ first last, outcome.warnings = first ++ warning :: last ∧
    without.warnings = first ++ last
  requests : ∃ first last, requests = first ++ own ++ last ∧ fewer = first ++ last
  results : ∀ key, outcome.results.get? key = without.results.get? key ∨
    (key = dumpPath ∧ ∃ marker, marker? = some marker ∧ outcome.results.get? key = some marker)

/-- The fetch is what each resource comes to on its own. -/
structure EachOnItsOwn (cluster : Cluster σ) (answers : Answers) (dispatch : String → Strategy)
    (resources : List Resource) (state : σ) : Prop where
  oneWay : ∀ resource, ∃ requests ending, Ends answers dispatch resource requests ending ∧
    ∀ others other, Ends answers dispatch resource others other →
      others = requests ∧ other = ending
  passesOrAborts :
    (∃ requests entries warnings, Passes answers dispatch resources requests entries warnings) ∨
      ∃ requests error, AbortsIn answers dispatch resources requests error
  /-- Requests are made for the resources up to the first one that does not go on. -/
  aborts : ∀ requests error, AbortsIn answers dispatch resources requests error →
    answerTo cluster dispatch resources state = .error error ∧
      requestsFor cluster dispatch resources state = requests
  /-- Of the entries under one key the last is found. -/
  passes : ∀ requests entries warnings,
    Passes answers dispatch resources requests entries warnings →
    ∃ outcome, answerTo cluster dispatch resources state = .ok outcome ∧
      (∀ key, outcome.results.get? key = Entries.get? key entries.reverse) ∧
      outcome.warnings = warnings ∧ requestsFor cluster dispatch resources state = requests
  /-- A resource with a tolerated failure takes no part in what the others leave. -/
  removal : ∀ before resource later own uri failure, resources = before ++ resource :: later →
    Streams answers resource.uri (dispatch resource.uri) own (.error (.fetch uri failure)) →
    failure.isTolerated = true →
    (∀ error, answerTo cluster dispatch resources state = .error error ↔
      answerTo cluster dispatch (before ++ later) state = .error error) ∧
    ∀ outcome, answerTo cluster dispatch resources state = .ok outcome →
      ∃ without, answerTo cluster dispatch (before ++ later) state = .ok without ∧
        AddsOnly own (failureWarning uri failure) resource.dumpPath
          (if failure.isNotFound then some (Outcome.marker failure.reason) else none)
          outcome without (requestsFor cluster dispatch resources state)
          (requestsFor cluster dispatch (before ++ later) state)

/-- Writing the requests down does not change what becomes of the fetch. -/
theorem answerTo_eq (cluster : Cluster σ) (dispatch : String → Strategy)
    (resources : List Resource) (state : σ) :
    answerTo cluster dispatch resources state =
      (after cluster.logging dispatch resources .empty (state, [])).1 := by
  rw [answerTo, ← mirrors_after cluster dispatch resources .empty state []]

private theorem answerTo_of_passes (h : AnswersBy cluster answers)
    (hend : ListingEnds cluster answers)
    {requests : List Request} {entries : List (String × Bytes)} {warnings : List String}
    (hpasses : Passes answers dispatch resources requests entries warnings) (state : σ) :
    answerTo cluster dispatch resources state = .ok (extend .empty entries warnings) ∧
      requestsFor cluster dispatch resources state = requests := by
  obtain ⟨next, hafter⟩ := after_logging_of_passes h hend hpasses state []
  rw [answerTo_eq, requestsFor, hafter]
  exact ⟨rfl, rfl⟩

private theorem answerTo_of_abortsIn (h : AnswersBy cluster answers)
    (hend : ListingEnds cluster answers) {requests : List Request} {error : Error}
    (haborts : AbortsIn answers dispatch resources requests error) (state : σ) :
    answerTo cluster dispatch resources state = .error error ∧
      requestsFor cluster dispatch resources state = requests := by
  obtain ⟨next, hafter⟩ := after_logging_of_abortsIn h hend haborts state []
  rw [answerTo_eq, requestsFor, hafter]
  exact ⟨rfl, rfl⟩

private theorem get?_extend_empty (entries : List (String × Bytes)) (warnings : List String)
    (key : String) :
    (extend .empty entries warnings).results.get? key = Entries.get? key entries.reverse := by
  simp [extend, Keyed.get?_insertMany, Outcome.empty]

/-- A tolerated failure leaves a warning, and a marker if the object does not exist. -/
private theorem ends_of_tolerated {own : List Request} {uri : String} {failure : Failure}
    (h : Streams answers resource.uri (dispatch resource.uri) own (.error (.fetch uri failure)))
    (htolerated : failure.isTolerated = true) :
    Ends answers dispatch resource own
      (.goesOn (if failure.isNotFound then some (Outcome.marker failure.reason) else none)
        (some (failureWarning uri failure))) := by
  by_cases hfound : failure.isNotFound = true
  · rw [if_pos hfound]
    exact .missing h hfound
  · rw [if_neg hfound]
    exact .denied h htolerated (Bool.not_eq_true _ ▸ hfound)

/-- What stands in the middle of a list of entries is found only where nothing follows. -/
private theorem get?_reverse_middle (key dumpPath : String) (marker? : Option Bytes)
    (first last : List (String × Bytes)) :
    let middle := (marker?.map fun marker => (dumpPath, marker)).toList
    Entries.get? key (first ++ (middle ++ last)).reverse =
        Entries.get? key (first ++ last).reverse ∨
      (key = dumpPath ∧ ∃ marker, marker? = some marker ∧
        Entries.get? key (first ++ (middle ++ last)).reverse = some marker) := by
  intro middle
  simp only [List.reverse_append, Entries.get?_append]
  cases hlast : Entries.get? key last.reverse with
  | some value => simp
  | none =>
      cases marker? with
      | none => simp [middle]
      | some marker =>
          by_cases hkey : dumpPath = key
          · exact .inr ⟨hkey.symm, marker, rfl, by simp [middle, Entries.get?_cons, hkey]⟩
          · exact .inl (by simp [middle, Entries.get?_cons, hkey])

/-- Fetching resources from a cluster whose answers depend on the request alone is what each
resource comes to on its own. -/
theorem fetch_eachOnItsOwn (h : AnswersBy cluster answers) (hend : ListingEnds cluster answers)
    (dispatch : String → Strategy) (resources : List Resource) (state : σ) :
    EachOnItsOwn cluster answers dispatch resources state := by
  refine
    { oneWay := ?_
      passesOrAborts := passes_or_abortsIn hend dispatch resources
      aborts := fun requests error haborts => answerTo_of_abortsIn h hend haborts state
      passes := ?_
      removal := ?_ }
  · intro resource
    obtain ⟨requests, ending, hends⟩ := exists_ends hend dispatch resource
    exact ⟨requests, ending, hends, fun others other => hends.unique h hend state⟩
  · intro requests entries warnings hpasses
    have hanswer := answerTo_of_passes h hend hpasses state
    exact ⟨_, hanswer.1, get?_extend_empty entries warnings, rfl, hanswer.2⟩
  · intro before resource later own uri failure heq hstreams htolerated
    subst heq
    have hown := ends_of_tolerated hstreams htolerated
    rcases passes_or_abortsIn hend dispatch before with
      ⟨front, first, noted, hbefore⟩ | ⟨requests, error, haborts⟩
    · rcases passes_or_abortsIn hend dispatch later with
        ⟨back, last, further, hlater⟩ | ⟨requests, error, haborts⟩
      · have hall := answerTo_of_passes h hend (hbefore.append (.cons hown hlater)) state
        have hrest := answerTo_of_passes h hend (hbefore.append hlater) state
        refine ⟨fun error => by simp [hall.1, hrest.1], fun outcome houtcome => ?_⟩
        rw [hall.1, Except.ok.injEq] at houtcome
        subst houtcome
        refine ⟨_, hrest.1, ⟨noted, further, rfl, rfl⟩, ⟨front, back, ?_, hrest.2⟩, fun key => ?_⟩
        · rw [hall.2, List.append_assoc]
        · rw [get?_extend_empty, get?_extend_empty]
          exact get?_reverse_middle key resource.dumpPath _ first last
      · have hall := answerTo_of_abortsIn h hend
          (AbortsIn.prepend (hbefore.append (.cons hown .nil)) haborts) state
        have hrest := answerTo_of_abortsIn h hend (AbortsIn.prepend hbefore haborts) state
        rw [List.append_assoc, List.singleton_append] at hall
        rw [hall.1, hrest.1]
        exact ⟨fun _ => Iff.rfl, fun _ hok => by cases hok⟩
    · have hall := answerTo_of_abortsIn h hend (haborts.append (resource :: later)) state
      have hrest := answerTo_of_abortsIn h hend (haborts.append later) state
      rw [hall.1, hrest.1]
      exact ⟨fun _ => Iff.rfl, fun _ hok => by cases hok⟩

/-- One object is missing, one is denied, and every other one is a list of two numbers. -/
def listAnswers : Answers where
  get := fun uri =>
    if uri = "/missing" then .error (.notFound "NotFound" "no such object")
    else if uri = "/denied" then .error (.forbidden "not allowed")
    else .ok (Text.encodeString "[1,2]")
  page := fun _ _ _ => .ok ⟨[], none⟩

/-- The cluster that gives these answers and counts how often it was asked. -/
def listCluster : Cluster Nat where
  listNodes := fun asked => (.ok [], asked + 1)
  getRaw := fun uri asked => (listAnswers.get uri, asked + 1)
  listPage := fun uri limit token asked => (listAnswers.page uri limit token, asked + 1)
  pageLimit := 1

theorem fetch_eachOnItsOwn_lists :
    AnswersBy listCluster listAnswers ∧ ListingEnds listCluster listAnswers ∧
      EachOnItsOwn listCluster listAnswers strategyFor
        [.plain "/missing", .plain "/denied", ⟨"/list", "/missing", ".[]"⟩] 0 := by
  have hanswers : AnswersBy listCluster listAnswers := ⟨fun _ _ => rfl, fun _ _ _ _ => rfl⟩
  have hend : ListingEnds listCluster listAnswers := ⟨_, _, .last rfl rfl rfl, Nat.le_refl 1⟩
  exact ⟨hanswers, hend, fetch_eachOnItsOwn hanswers hend strategyFor _ 0⟩

end ClusterEvidence.Fetch
