import ClusterEvidence.Filter.Run
import ClusterEvidence.Proofs.Filter.Parser
import ClusterEvidence.Proofs.Traverse

/-!
# Running a filter one value at a time

A filter pushes all values through one step, and through one stage, before any value takes the next.
The same values come out, in the same order, when each value is sent through all that is left before
the next one starts: taking one more step is a pass over the values, and two passes one after the
other are one pass (`SameResult.gather_bind`). Only the failure may be another one, since another
value meets its fault first.

So the rest of a filter may be run on each result of its front, which is what `|` means.

## Main results

* `selectAll_depthFirst`, `runAll_depthFirst` — steps and stages, one value at a time.
* `parse_piped` — the stages of two texts with `|` in between.
* `run_isDepthFirst` — how filters run, and how they may be put together and cut.
-/

namespace ClusterEvidence.Filter

/-! ## Steps and stages in a row -/

/-- Steps in a row are taken one part after the other. -/
private theorem selectAll_append (steps others : List Step) (values : List Json) :
    selectAll (steps ++ others) values = selectAll steps values >>= selectAll others := by
  induction steps generalizing values with
  | nil => rfl
  | cons step steps ih =>
      simp only [List.cons_append, selectAll, bind_assoc]
      congr 1
      funext next
      exact ih next

/-- Stages in a row are passed one part after the other. -/
theorem runAll_append (stages others : List Stage) (values : List Json) :
    runAll (stages ++ others) values = runAll stages values >>= runAll others := by
  induction stages generalizing values with
  | nil => rfl
  | cons stage stages ih =>
      simp only [List.cons_append, runAll, bind_assoc]
      congr 1
      funext next
      exact ih next

/-- Without a value nothing comes out of any stages. -/
private theorem runAll_nil (stages : List Stage) : runAll stages [] = .ok [] := by
  induction stages with
  | nil => rfl
  | cons stage stages ih => exact ih

/-! ## One value at a time -/

/-- All values take the steps together and then the rest as each does for itself. -/
theorem selectAll_depthFirst (rest : Json → Except RunFault (List Json)) (steps : List Step)
    (values : List Json) :
    SameResult (selectAll steps values >>= gather rest)
      (gather (selectThen rest steps) values) := by
  induction steps generalizing values with
  | nil => exact .refl _
  | cons step steps ih =>
      have hrest : SameResult
          (gather step.apply values >>= fun next => selectAll steps next >>= gather rest)
          (gather step.apply values >>= gather (selectThen rest steps)) :=
        SameResult.bind_congr (.refl _) ih
      rw [selectAll, bind_assoc]
      exact hrest.trans (SameResult.gather_bind step.apply (selectThen rest steps) values)

/-- One value takes the steps of a path and then the rest depth first. -/
private theorem select_depthFirst (rest : Json → Except RunFault (List Json)) (steps : List Step)
    (value : Json) :
    SameResult (select steps value >>= gather rest) (selectThen rest steps value) := by
  have hall := selectAll_depthFirst rest steps [value]
  rwa [gather_singleton] at hall

/-- A path may be followed for all values together or for one after another. -/
theorem gather_select (steps : List Step) (values : List Json) :
    SameResult (gather (select steps) values) (selectAll steps values) := by
  have hone (value : Json) :
      SameResult (select steps value) (selectThen (fun value => .ok [value]) steps value) := by
    have hvalue := select_depthFirst (fun value => .ok [value]) steps value
    rwa [bind_gather_pure] at hvalue
  have hall := selectAll_depthFirst (fun value => .ok [value]) steps values
  rw [bind_gather_pure] at hall
  exact (SameResult.gather_congr hone values).trans hall.symm

/-- A value passes a stage and then the others as it passes all of them depth first. -/
private theorem Stage.apply_depthFirst (stage : Stage) (stages : List Stage) (value : Json) :
    SameResult (stage.apply value >>= gather (runDepthFirst stages))
      (runDepthFirst (stage :: stages) value) := by
  cases stage with
  | empty => exact .refl _
  | path steps => exact select_depthFirst (runDepthFirst stages) steps value
  | assign steps literal =>
      rw [Stage.apply, runDepthFirst]
      cases Filter.assign literal steps value with
      | error fault => exact .refl _
      | ok new =>
          show SameResult (gather (runDepthFirst stages) [new]) (runDepthFirst stages new)
          rw [gather_singleton]
          exact .refl _

/-- All values pass the stages together as each does for itself. -/
theorem runAll_depthFirst (stages : List Stage) (values : List Json) :
    SameResult (runAll stages values) (gather (runDepthFirst stages) values) := by
  induction stages generalizing values with
  | nil =>
      have hpass := gather_pure (ε := RunFault) values
      show SameResult (.ok values) (gather (fun value => .ok [value]) values)
      rw [hpass]
      exact .refl _
  | cons stage stages ih =>
      have hrest : SameResult (gather stage.apply values >>= runAll stages)
          (gather stage.apply values >>= gather (runDepthFirst stages)) :=
        SameResult.bind_congr (.refl _) ih
      apply hrest.trans
      apply (SameResult.gather_bind stage.apply (runDepthFirst stages) values).trans
      exact SameResult.gather_congr (stage.apply_depthFirst stages) values

private theorem run_depthFirst (filter : Filter) (value : Json) :
    SameResult (filter.run value) (runDepthFirst filter.stages value) := by
  have hall := runAll_depthFirst filter.stages [value]
  rwa [gather_singleton] at hall

/-- A filter may be run on all values together or on one after another. -/
private theorem gather_run (filter : Filter) (values : List Json) :
    SameResult (gather filter.run values) (runAll filter.stages values) :=
  (SameResult.gather_congr (run_depthFirst filter) values).trans
    (runAll_depthFirst filter.stages values).symm

/-! ## Putting filters together -/

/-- Filters with `|` in between are a filter with the stages of both. -/
theorem DerivesFilter.append {text other : List Char} {stages others : List Stage}
    (h : DerivesFilter text stages) (h' : DerivesFilter other others) :
    DerivesFilter (text ++ '|' :: other) (stages ++ others) := by
  induction h with
  | one hstage => exact .more hstage h'
  | @more text stage rest stages hstage _ ih =>
      have hassoc : text ++ '|' :: rest ++ '|' :: other =
          text ++ '|' :: (rest ++ '|' :: other) := by
        simp
      rw [hassoc]
      exact .more hstage ih

/-- The stages of two texts with `|` in between are those of the one and then those of the
other. -/
theorem parse_piped {source other : String} {first last : Filter}
    (hfirst : parse source = .ok first) (hlast : parse other = .ok last) :
    parse (source ++ "|" ++ other) = .ok ⟨first.stages ++ last.stages⟩ := by
  have hderives := (derives_of_parse hfirst).append (derives_of_parse hlast)
  have htext : (source ++ "|" ++ other).toList = source.toList ++ '|' :: other.toList := by simp
  exact parse_of_derives (htext ▸ hderives)

/-- Running the stages of two filters is running the second one on each result of the first. -/
private theorem run_append_iff (first last : Filter) (value : Json) (values : List Json) :
    run ⟨first.stages ++ last.stages⟩ value = .ok values ↔
      ∃ (middle : List Json) (parts : List (List Json)), first.run value = .ok middle ∧
        middle.map last.run = parts.map .ok ∧ values = parts.flatten := by
  have hsplit : run ⟨first.stages ++ last.stages⟩ value =
      first.run value >>= runAll last.stages := runAll_append _ _ _
  rw [hsplit]
  cases hfirst : first.run value with
  | error fault => simp [bind, Except.bind]
  | ok middle =>
      have heach := (gather_run last middle values).symm
      show runAll last.stages middle = .ok values ↔ _
      rw [heach, gather_eq_ok_iff]
      simp

/-- A path that is cut in two is two stages. -/
private theorem run_cut (before after : List Stage) (steps others : List Step) (value : Json) :
    SameResult (run ⟨before ++ .path (steps ++ others) :: after⟩ value)
      (run ⟨before ++ .path steps :: .path others :: after⟩ value) := by
  have hpath (values : List Json) :
      SameResult (gather (select (steps ++ others)) values)
        (gather (select steps) values >>= gather (select others)) := by
    apply (gather_select (steps ++ others) values).trans
    rw [selectAll_append]
    exact (gather_select steps values).symm.bind_congr fun next => (gather_select others next).symm
  show SameResult (runAll _ [value]) (runAll _ [value])
  rw [runAll_append, runAll_append]
  apply SameResult.bind_congr (.refl _)
  intro values
  have hrest := (hpath values).bind_congr fun next => .refl (runAll after next)
  rwa [bind_assoc] at hrest

/-- Nothing comes out of what stands behind `empty`. -/
private theorem run_behindEmpty (before after : List Stage) (value : Json) :
    run ⟨before ++ .empty :: after⟩ value = run ⟨before ++ [.empty]⟩ value := by
  have hempty (stages : List Stage) (values : List Json) :
      runAll (.empty :: stages) values = .ok [] := by
    have hnone : gather Stage.empty.apply values = .ok [] := by
      induction values with
      | nil => rfl
      | cons value values ih =>
          rw [gather, ih]
          rfl
    rw [runAll, hnone]
    exact runAll_nil stages
  show runAll _ [value] = runAll _ [value]
  rw [runAll_append, runAll_append]
  congr 1
  funext values
  rw [hempty, hempty]

/-- A way to run filters that gives what running them one value at a time gives. -/
structure IsDepthFirst (run : Filter → Json → Except RunFault (List Json)) : Prop where
  /-- The values are those that come out when each takes all steps and stages before the next one
  starts. -/
  values_iff : ∀ filter value values,
    run filter value = .ok values ↔ runDepthFirst filter.stages value = .ok values
  fails_iff : ∀ filter value,
    (∃ fault, run filter value = .error fault) ↔
      ∃ fault, runDepthFirst filter.stages value = .error fault
  /-- Two texts with `|` in between are a filter, which runs the second one on each result of the
  first. -/
  piped : ∀ source other first last, parse source = .ok first → parse other = .ok last →
    ∃ both, parse (source ++ "|" ++ other) = .ok both ∧
      ∀ value values, run both value = .ok values ↔
        ∃ (middle : List Json) (parts : List (List Json)), run first value = .ok middle ∧
          middle.map (run last) = parts.map .ok ∧ values = parts.flatten
  /-- A path is the same as its front and then its rest, as stages of their own. -/
  cut : ∀ before steps others after value values,
    run ⟨before ++ .path (steps ++ others) :: after⟩ value = .ok values ↔
      run ⟨before ++ .path steps :: .path others :: after⟩ value = .ok values
  /-- What stands behind `empty` makes no difference, also not to how a filter fails. -/
  behindEmpty : ∀ before after value,
    run ⟨before ++ .empty :: after⟩ value = run ⟨before ++ [.empty]⟩ value

/-- Filters give what running them one value at a time gives. -/
theorem run_isDepthFirst : IsDepthFirst run where
  values_iff filter value := run_depthFirst filter value
  fails_iff filter value := (run_depthFirst filter value).fails_iff
  piped _ _ first last hfirst hlast :=
    ⟨_, parse_piped hfirst hlast, run_append_iff first last⟩
  cut before steps others after value := run_cut before after steps others value
  behindEmpty before after value := run_behindEmpty before after value

end ClusterEvidence.Filter
