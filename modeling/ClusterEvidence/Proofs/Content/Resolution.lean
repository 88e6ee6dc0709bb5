import ClusterEvidence.Content.Resolution
import ClusterEvidence.Proofs.Content.Unlinked
import ClusterEvidence.Proofs.Keyed

/-!
# What resolving a profile gives

Selections are taken one after another: those of the tailored profile, then those of the benchmark's
profile that it extends. Each adds what the first rule of its id needs (`foldl_select`,
`get?_rulesOf`), so the resources are those of the selections in their order, and a resolution is
known from the selections and the variables alone (`resolve_eq`).

Two resolutions are compared from there. A tailored profile adds its own selections to what the
profile that it extends gives without a tailoring, as long as the tailoring sets no variable of the
benchmark; and what the benchmark's own profiles extend makes no difference at all.

## Main results

* `resolve_eq` — a resolution in closed form.
* `resolve_resolves` — what is selected, what that needs, and how tailored and plain resolutions are
  related.
-/

namespace ClusterEvidence.Resolution

open Profile (selectedIn extendedIn)

variable {benchmark : Document} {tailoring : Option Document} {profile id : String}

/-! ## What a profile stands for -/

/-- The first rule of an id, in document order. -/
def ruleIn? (benchmark : Document) (id : String) : Option Element :=
  (benchmark.root.preorder.filter (·.is Element.xccdf "Rule")).find? (·.attributeD "id" = id)

/-- The resources that the rule of an id needs; none when the id is unknown. -/
def needed (benchmark : Document) (values : VariableTable) (id : String) : List Resource :=
  (ruleIn? benchmark id).elim [] (Directive.resourcesOfRule values)

/-- What the tailored profile selects; nothing without a tailoring. -/
def ownSelected (tailoring : Option Document) (profile : String) : List String :=
  tailoring.elim [] (selectedIn · profile)

/-- The benchmark's profile that counts: the profile itself without a tailoring, else the one that
the tailored profile extends. -/
def base? (tailoring : Option Document) (profile : String) : Option String :=
  tailoring.elim (some profile) (extendedIn · profile)

/-- What the benchmark's profile selects. -/
def baseSelected (benchmark : Document) (tailoring : Option Document) (profile : String) :
    List String :=
  (base? tailoring profile).elim [] (selectedIn benchmark)

/-- A tailoring has a value for none of a benchmark's variables. -/
def SetsNoneOf (tailoring benchmark : Document) : Prop :=
  ∀ id value, (VariableTable.collect [tailoring]).get? id = some value →
    (VariableTable.collect [benchmark]).get? id = none

/-! ## Rules -/

private theorem get?_addRule (rules : Keyed Element) (rule : Element) :
    (addRule rules rule).get? id =
      (rules.get? id).or (if rule.attributeD "id" = id then some rule else none) := by
  unfold addRule
  split
  · next hold =>
      obtain ⟨first, hfirst⟩ := Option.isSome_iff_exists.1 hold
      by_cases h : rule.attributeD "id" = id
      · rw [← h, hfirst]
        rfl
      · rw [if_neg h, Option.or_none]
  · next hnew =>
      rw [Keyed.get?_insert]
      by_cases h : rule.attributeD "id" = id
      · have hnone : rules.get? (rule.attributeD "id") = none := by
          simpa [Keyed.contains] using hnew
        rw [if_pos h, if_pos h, ← h, hnone]
        rfl
      · rw [if_neg h, if_neg h, Option.or_none]

/-- Of all rules with an id the first one is found. -/
private theorem get?_foldl_addRule (elements : List Element) (rules : Keyed Element) :
    (elements.foldl addRule rules).get? id =
      (rules.get? id).or (elements.find? (·.attributeD "id" = id)) := by
  induction elements generalizing rules with
  | nil => exact (Option.or_none).symm
  | cons rule elements ih =>
      rw [List.foldl_cons, ih, get?_addRule, Option.or_assoc, List.find?_cons]
      by_cases h : rule.attributeD "id" = id <;> simp [h]

/-- The rule of an id is the first one in document order. -/
theorem get?_rulesOf (benchmark : Document) (id : String) :
    (rulesOf benchmark).get? id = ruleIn? benchmark id := by
  rw [rulesOf, get?_foldl_addRule, Document.xccdfElements_eq, Keyed.get?_empty, Option.none_or,
    ruleIn?]

private theorem resourcesOf_rulesOf (benchmark : Document) (values : VariableTable) (id : String) :
    resourcesOf (rulesOf benchmark) values id = needed benchmark values id := by
  rw [resourcesOf, get?_rulesOf, needed]
  cases ruleIn? benchmark id <;> rfl

/-! ## Selections -/

/-- Selecting rules one after another adds their ids and what they need, in this order. -/
theorem foldl_select (rules : Keyed Element) (ids : List String) (resolution : Resolution) :
    ids.foldl (select rules) resolution =
      { resolution with
        resources :=
          resolution.resources ++ ids.flatMap (resourcesOf rules resolution.values)
        selected := resolution.selected ++ ids } := by
  induction ids generalizing resolution with
  | nil => simp
  | cons id ids ih =>
      rw [List.foldl_cons, ih]
      simp [select]

/-- A profile of a document adds what its elements select. -/
private theorem selectAll_find (benchmark document : Document) (profile : String)
    (resolution : Resolution) :
    selectAll (rulesOf benchmark) resolution (Profile.find document profile) =
      { resolution with
        resources := resolution.resources ++
          (selectedIn document profile).flatMap (needed benchmark resolution.values)
        selected := resolution.selected ++ selectedIn document profile } := by
  rw [selectAll, Profile.selected_find, foldl_select,
    funext (resourcesOf_rulesOf benchmark resolution.values)]

/-! ## Resolutions -/

/-- A resolution in closed form. -/
theorem resolve_eq (benchmark : Document) (tailoring : Option Document) (profile : String) :
    resolve benchmark tailoring profile =
      { resources :=
          (ownSelected tailoring profile ++ baseSelected benchmark tailoring profile).flatMap
            (needed benchmark (variablesOf benchmark tailoring))
        selected := ownSelected tailoring profile ++ baseSelected benchmark tailoring profile
        values := variablesOf benchmark tailoring
        extends? := tailoring.bind (extendedIn · profile) } := by
  unfold resolve
  cases tailoring with
  | none =>
      simp only [selectAll_find]
      simp [ownSelected, baseSelected, base?]
  | some tailoring =>
      simp only [selectAll_find, Profile.extends?_find]
      cases hbase : extendedIn tailoring profile with
      | none => simp [ownSelected, baseSelected, base?, hbase]
      | some base => simp [ownSelected, baseSelected, base?, hbase]

/-! ## Variables -/

/-- The value of a variable is the tailoring's if it has one, and only the benchmark's variables
have values. -/
theorem get?_variablesOf (benchmark : Document) (tailoring : Option Document) (id : String) :
    (variablesOf benchmark tailoring).get? id =
      ((VariableTable.collect [benchmark]).get? id).map fun value =>
        (tailoring.bind fun tailoring =>
          (VariableTable.collect [tailoring]).get? id).getD value := by
  cases tailoring with
  | none => exact Option.map_id'.symm
  | some tailoring => exact Keyed.get?_mapValues _ _ _

/-- A tailoring that sets no variable of the benchmark changes none. -/
private theorem variablesOf_of_setsNoneOf {tailoring : Document}
    (h : SetsNoneOf tailoring benchmark) :
    variablesOf benchmark (some tailoring) = variablesOf benchmark none := by
  have hvalues : (variablesOf benchmark (some tailoring)).values =
      (variablesOf benchmark none).values := by
    refine Keyed.ext_get? fun id => ?_
    have hmerged := get?_variablesOf benchmark (some tailoring) id
    have hplain := get?_variablesOf benchmark none id
    refine hmerged.trans (Eq.trans ?_ hplain.symm)
    cases hown : (VariableTable.collect [tailoring]).get? id with
    | none => simp [hown]
    | some value => simp [h id value hown]
  exact congrArg VariableTable.mk hvalues

/-! ## Links -/

private theorem needed_unlinked (benchmark : Document) (values : VariableTable) (id : String) :
    needed benchmark.unlinked values id = needed benchmark values id := by
  have hid (element : Element) :
      decide (element.unlinked.attributeD "id" = id) = decide (element.attributeD "id" = id) := by
    rw [Element.attributeD_unlinked (by decide)]
  rw [needed, needed, ruleIn?, ruleIn?, Document.unlinked, Element.preorder_unlinked,
    Element.filter_map_unlinked fun _ => Element.is_unlinked, List.find?_map]
  simp only [Function.comp_def, hid]
  cases (List.find? _ _) with
  | none => rfl
  | some rule => exact Directive.resourcesOfRule_unlinked values rule

/-- What the profiles of a benchmark extend makes no difference. -/
private theorem resolve_unlinked (benchmark : Document) (tailoring : Option Document)
    (profile : String) :
    resolve benchmark.unlinked tailoring profile = resolve benchmark tailoring profile := by
  have hvalues : variablesOf benchmark.unlinked tailoring = variablesOf benchmark tailoring := by
    unfold variablesOf
    rw [VariableTable.collect_unlinked]
  have hbase : baseSelected benchmark.unlinked tailoring profile =
      baseSelected benchmark tailoring profile := by
    unfold baseSelected
    rw [funext (Profile.selectedIn_unlinked benchmark)]
  rw [resolve_eq, resolve_eq, hvalues, hbase,
    funext (needed_unlinked benchmark (variablesOf benchmark tailoring))]

/-! ## What resolving gives -/

/-- What is known of the resolution of a profile. -/
structure Resolves (benchmark : Document) (tailoring : Option Document) (profile : String)
    (resolution : Resolution) : Prop where
  selected : resolution.selected =
    ownSelected tailoring profile ++ baseSelected benchmark tailoring profile
  /-- Every selected rule gives what the first rule of its id needs, in the order of selection. -/
  resources : resolution.resources =
    resolution.selected.flatMap (needed benchmark resolution.values)
  values : ∀ id, resolution.values.get? id =
    ((VariableTable.collect [benchmark]).get? id).map fun value =>
      (tailoring.bind fun tailoring => (VariableTable.collect [tailoring]).get? id).getD value
  extends? : resolution.extends? = tailoring.bind (extendedIn · profile)
  /-- A tailored profile adds its selections to what the profile that it extends gives. -/
  extension : ∀ document base, tailoring = some document → extendedIn document profile = some base →
    SetsNoneOf document benchmark →
    resolution.selected =
        selectedIn document profile ++ (resolve benchmark none base).selected ∧
      resolution.resources =
        (selectedIn document profile).flatMap
            (needed benchmark (resolve benchmark none base).values)
          ++ (resolve benchmark none base).resources
  /-- What the benchmark's profiles extend makes no difference. -/
  unfollowed : ∀ other : Document, other.root.unlinked = benchmark.root.unlinked →
    resolve other tailoring profile = resolution

/-- Resolving a profile selects what it says and gives what the selected rules need. -/
theorem resolve_resolves (benchmark : Document) (tailoring : Option Document) (profile : String) :
    Resolves benchmark tailoring profile (resolve benchmark tailoring profile) := by
  have hresolve := resolve_eq benchmark tailoring profile
  refine
    { selected := by rw [hresolve]
      resources := by rw [hresolve]
      values := fun id => ?_
      extends? := by rw [hresolve]
      extension := fun document base hdocument hbase hnone => ?_
      unfollowed := fun other hother => ?_ }
  · rw [hresolve]
    exact get?_variablesOf benchmark tailoring id
  · subst hdocument
    constructor
    · rw [hresolve, resolve_eq]
      simp [ownSelected, baseSelected, base?, hbase]
    · rw [hresolve, resolve_eq, variablesOf_of_setsNoneOf hnone]
      simp [ownSelected, baseSelected, base?, hbase]
  · rw [← resolve_unlinked other, ← resolve_unlinked benchmark]
    have hroot : ∀ origin, resolve ⟨origin, benchmark.root.unlinked⟩ tailoring profile =
        resolve benchmark.unlinked tailoring profile := by
      intro origin
      rw [resolve_eq, resolve_eq]
      rfl
    rw [← hroot other.origin, ← hother]
    rfl

end ClusterEvidence.Resolution
