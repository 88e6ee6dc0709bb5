import ClusterEvidence.Json.Written

/-!
# Texts of one token

Once an array or object is open, the tree of a text is an array or object: the pass over the tokens
keeps that (`Inside.step?`). So the text of anything else is a single token.

## Main results

* `exists_token_of_ofTokens?` — a tree that is no array and no object is that of a single token.
-/

namespace ClusterEvidence.Json.Written

/-- A tree is what the pass ends with when nothing is open. -/
theorem ofTokens?_eq_some_iff {tokens : List Token} {tree : Written} :
    ofTokens? tokens = some tree ↔
      tokens.foldlM State.step? ⟨[], .value⟩ = some ⟨[], .after tree⟩ := by
  unfold ofTokens?
  split
  · next found hrun =>
      rw [hrun]
      simp
  · next hnot =>
      constructor
      · intro h
        cases h
      · intro h
        exact absurd h (hnot tree)

/-- Whether a tree is an array or an object. -/
def isContainer : Written → Bool
  | array _ => true
  | object _ => true
  | _ => false

/-- The pass stands in an array or object, or behind the one that is the whole tree. -/
def Inside (state : State) : Prop :=
  match state.demand with
  | .value => state.frames ≠ []
  | .valueOrClose => state.frames ≠ []
  | .key _ => True
  | .keyOrClose => True
  | .colon _ _ => True
  | .after tree => state.frames ≠ [] ∨ tree.isContainer = true

private theorem inside_of_value? {frames : List Frame} {token : Token} {state : State}
    (hframes : frames ≠ []) (h : State.value? frames token = some state) : Inside state := by
  unfold State.value? at h
  split at h
  · cases h
    simp [Inside]
  · cases h
    trivial
  · rw [Option.map_eq_some_iff] at h
    obtain ⟨tree, _, rfl⟩ := h
    exact .inl hframes

private theorem inside_of_after? {tree : Written} {frames : List Frame} {token : Token}
    {state : State} (h : State.after? tree frames token = some state) : Inside state := by
  unfold State.after? at h
  split at h
  · cases h
    simp [Inside]
  · cases h
    exact .inr rfl
  · cases h
    trivial
  · cases h
    exact .inr rfl
  · cases h

/-- No token leads out. -/
theorem Inside.step? {state next : State} {token : Token} (h : Inside state)
    (hstep : state.step? token = some next) : Inside next := by
  obtain ⟨frames, demand⟩ := state
  unfold State.step? at hstep
  split at hstep
  · next hdemand =>
      simp only at hdemand
      subst hdemand
      exact inside_of_value? h hstep
  · next hdemand =>
      split at hstep
      · cases hstep
        exact .inr rfl
      · cases hstep
  · next hdemand _ =>
      simp only at hdemand
      subst hdemand
      exact inside_of_value? h hstep
  · cases hstep
    trivial
  · cases hstep
    trivial
  · cases hstep
    exact .inr rfl
  · cases hstep
    simp [Inside]
  · exact inside_of_after? hstep
  · cases hstep

private theorem Inside.foldlM {state last : State} {tokens : List Token} (h : Inside state)
    (hrun : tokens.foldlM State.step? state = some last) : Inside last := by
  induction tokens generalizing state with
  | nil =>
      cases hrun
      exact h
  | cons token tokens ih =>
      rw [List.foldlM_cons, Option.bind_eq_bind, Option.bind_eq_some_iff] at hrun
      obtain ⟨next, hstep, hrun⟩ := hrun
      exact ih (h.step? hstep) hrun

/-- A tree that is no array and no object is that of a single token. -/
theorem exists_token_of_ofTokens? {tokens : List Token} {tree : Written}
    (h : ofTokens? tokens = some tree) (hscalar : tree.isContainer = false) :
    ∃ token, tokens = [token] ∧ scalar? token = some tree := by
  have hrun := ofTokens?_eq_some_iff.1 h
  cases tokens with
  | nil => cases hrun
  | cons token tokens =>
      rw [List.foldlM_cons, Option.bind_eq_bind, Option.bind_eq_some_iff] at hrun
      obtain ⟨next, hstep, hrun⟩ := hrun
      have hinside : ¬ Inside next := by
        intro hinside
        rcases hinside.foldlM hrun with hframes | hcontainer
        · exact hframes rfl
        · rw [hscalar] at hcontainer
          cases hcontainer
      have hvalue : State.value? [] token = some next := hstep
      unfold State.value? at hvalue
      split at hvalue
      · cases hvalue
        exact absurd (by simp [Inside]) hinside
      · cases hvalue
        exact absurd trivial hinside
      · rw [Option.map_eq_some_iff] at hvalue
        obtain ⟨first, hfirst, rfl⟩ := hvalue
        cases tokens with
        | nil =>
            cases hrun
            exact ⟨token, rfl, hfirst⟩
        | cons second tokens =>
            rw [List.foldlM_cons, Option.bind_eq_bind, Option.bind_eq_some_iff] at hrun
            obtain ⟨_, hnone, _⟩ := hrun
            cases hnone

end ClusterEvidence.Json.Written
