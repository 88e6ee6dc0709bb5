import ClusterEvidence.Fetch

/-!
# Where the fetched bodies come from

Every body that a fetch leaves was stored for one of its resources, under the dump path of that
resource, and is what the answer for it was turned into: the marker of a missing object, the body as
it is, or what the filter made of it. This holds of one answer (`get?_of_note`) and, since a fetch
only takes one answer after another, of all of them.

## Main results

* `exists_source_of_all` — the resource and the answer behind a body.
-/

namespace ClusterEvidence.Fetch

variable {σ : Type} {cluster : Cluster σ} {key : String} {stored : Bytes}

/-- What is stored for a resource whose answer is known. -/
inductive Leaves (resource : Resource) : Except Error Bytes → Bytes → Prop where
  | marker {uri : String} {failure : Cluster.Failure} (hmissing : failure.isNotFound = true) :
      Leaves resource (.error (.fetch uri failure)) (Outcome.marker failure.reason)
  | whole {body : Bytes} (hfilter : resource.filter = "") : Leaves resource (.ok body) body
  | filtered {body : Bytes} {filtered : Filtered} (hfilter : resource.filter ≠ "")
      (h : Filter.applyTo resource.filter body = .ok filtered) :
      Leaves resource (.ok body) filtered.body

private theorem get?_store {outcome : Outcome} {dumpPath : String} {body : Bytes}
    (h : (outcome.store dumpPath body).results.get? key = some stored) :
    outcome.results.get? key = some stored ∨ key = dumpPath ∧ stored = body := by
  rw [Outcome.store, Keyed.get?_insert] at h
  by_cases hkey : dumpPath = key
  · rw [if_pos hkey, Option.some.injEq] at h
    exact .inr ⟨hkey.symm, h.symm⟩
  · rw [if_neg hkey] at h
    exact .inl h

/-- What is stored after a body was there before or comes from this body. -/
private theorem get?_of_noteBody {resource : Resource} {body : Bytes} {outcome next : Outcome}
    (h : noteBody resource body outcome = .ok next) (hget : next.results.get? key = some stored) :
    outcome.results.get? key = some stored ∨
      key = resource.dumpPath ∧ Leaves resource (.ok body) stored := by
  unfold noteBody at h
  split at h
  · cases h
    exact .inl hget
  · split at h
    · next hfilter =>
        cases h
        rcases get?_store hget with hold | ⟨hkey, hbody⟩
        · exact .inl hold
        · subst hbody
          exact .inr ⟨hkey, .whole (by simpa [Resource.hasFilter] using hfilter)⟩
    · next hfilter =>
        split at h
        · cases h
        · cases h
        · next filtered happly =>
            have hsource : resource.filter ≠ "" := by simpa [Resource.hasFilter] using hfilter
            have hresults : next.results =
                (outcome.store resource.dumpPath filtered.body).results := by
              cases h
              split <;> rfl
            rw [hresults] at hget
            rcases get?_store hget with hold | ⟨hkey, hbody⟩
            · exact .inl hold
            · subst hbody
              exact .inr ⟨hkey, .filtered hsource happly⟩

/-- What is stored after an answer was there before or comes from this answer. -/
theorem get?_of_note {resource : Resource} {answer : Except Error Bytes} {outcome next : Outcome}
    (h : note resource answer outcome = .ok next) (hget : next.results.get? key = some stored) :
    outcome.results.get? key = some stored ∨
      key = resource.dumpPath ∧ Leaves resource answer stored := by
  unfold note at h
  split at h
  · exact get?_of_noteBody h hget
  · next uri failure =>
      split at h
      · cases h
        unfold noteFailure at hget
        dsimp only at hget
        split at hget
        · next hmissing =>
            rcases get?_store hget with hold | ⟨hkey, hbody⟩
            · exact .inl hold
            · subst hbody
              exact .inr ⟨hkey, .marker hmissing⟩
        · exact .inl hget
      · cases h
  · cases h

theorem after_cons (cluster : Cluster σ) (dispatch : String → Strategy) (resource : Resource)
    (resources : List Resource) (outcome : Outcome) (state : σ) :
    after cluster dispatch (resource :: resources) outcome state =
      let answer := body cluster (dispatch resource.uri) resource.uri state
      match note resource answer.1 outcome with
      | .error e => (.error e, answer.2)
      | .ok next => after cluster dispatch resources next answer.2 := by
  rw [after]
  cases hanswer : body cluster (dispatch resource.uri) resource.uri state with
  | mk answer next =>
      simp only [bind, StateT.bind, one, hanswer]
      cases note resource answer outcome <;> rfl

/-- What is stored after a list of resources was there before or comes from the answer for one of
them. -/
private theorem get?_of_after {dispatch : String → Strategy} {resources : List Resource}
    {outcome last : Outcome} {state : σ}
    (h : (after cluster dispatch resources outcome state).1 = .ok last)
    (hget : last.results.get? key = some stored) :
    outcome.results.get? key = some stored ∨
      ∃ resource ∈ resources, ∃ during, key = resource.dumpPath ∧
        Leaves resource (body cluster (dispatch resource.uri) resource.uri during).1 stored := by
  induction resources generalizing outcome state with
  | nil =>
      cases h
      exact .inl hget
  | cons resource resources ih =>
      rw [after_cons] at h
      dsimp only at h
      split at h
      · cases h
      · next next hnote =>
          rcases ih h with hold | ⟨other, hmem, during, hother⟩
          · rcases get?_of_note hnote hold with hold | ⟨hkey, hleaves⟩
            · exact .inl hold
            · exact .inr ⟨resource, List.mem_cons_self, state, hkey, hleaves⟩
          · exact .inr ⟨other, List.mem_cons_of_mem _ hmem, during, hother⟩

/-- The resource and the answer behind a body. -/
theorem exists_source_of_all {resources : List Resource} {outcome : Outcome} {state : σ}
    (h : (all cluster resources state).1 = .ok outcome)
    (hget : outcome.results.get? key = some stored) :
    ∃ resource ∈ resources, ∃ during, key = resource.dumpPath ∧
      Leaves resource (body cluster (strategyFor resource.uri) resource.uri during).1 stored := by
  rcases get?_of_after h hget with hnone | hsource
  · cases hnone
  · exact hsource

end ClusterEvidence.Fetch
