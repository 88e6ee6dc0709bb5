import ClusterEvidence.Content.Directive
import ClusterEvidence.Content.Profile

/-!
# Resolving a profile

A profile is resolved to the resources that its rules need. Without a tailoring the profile is one
of the benchmark. With a tailoring it is one of the tailoring; its own selections come first, and
those of the benchmark's profile that it extends follow. One such step is taken: what a profile of
the benchmark extends does not matter.

Rules are those of the benchmark, and of two with one id the first counts. A selected rule that does
not exist stays in the list of selections and needs nothing.
-/

namespace ClusterEvidence

/-- What a profile needs, and what it was derived from. -/
structure Resolution where
  /-- The resources of the selected rules, in the order of selection. -/
  resources : List Resource
  /-- The ids of the selected rules, the tailoring's first. -/
  selected : List String
  /-- The variables that the resources were rendered with. -/
  values : VariableTable
  /-- The benchmark's profile that the tailoring extends. -/
  extends? : Option String

namespace Resolution

/-- The variables of a benchmark, with the values that a tailoring gives them. -/
def variablesOf (benchmark : Document) (tailoring : Option Document) : VariableTable :=
  let table := VariableTable.collect [benchmark]
  match tailoring with
  | none => table
  | some tailoring => table.overwriteFrom (VariableTable.collect [tailoring])

/-! ## Rules -/

/-- The rules by id, with one more unless there is one of its id. -/
def addRule (rules : Keyed Element) (rule : Element) : Keyed Element :=
  if rules.contains (rule.attributeD "id") then rules else rules.insert (rule.attributeD "id") rule

/-- The rules of a benchmark by id. -/
def rulesOf (benchmark : Document) : Keyed Element :=
  (benchmark.xccdfElements "Rule").foldl addRule .empty

/-- The resources that the rule of an id needs; none when there is no such rule. -/
def resourcesOf (rules : Keyed Element) (values : VariableTable) (id : String) : List Resource :=
  match rules.get? id with
  | some rule => Directive.resourcesOfRule values rule
  | none => []

/-! ## Selecting -/

/-- The resolution with one more selected rule. -/
def select (rules : Keyed Element) (resolution : Resolution) (id : String) : Resolution :=
  { resolution with
    resources := resolution.resources ++ resourcesOf rules resolution.values id
    selected := resolution.selected ++ [id] }

/-- The resolution with all rules that a profile selects, if there is a profile. -/
def selectAll (rules : Keyed Element) (resolution : Resolution) (profile? : Option Profile) :
    Resolution :=
  (profile?.elim [] Profile.selected).foldl (select rules) resolution

/-- Resolves a profile. -/
def resolve (benchmark : Document) (tailoring : Option Document) (profile : String) :
    Resolution :=
  let rules := rulesOf benchmark
  let start : Resolution := ⟨[], [], variablesOf benchmark tailoring, none⟩
  match tailoring with
  | none => selectAll rules start (Profile.find benchmark profile)
  | some tailoring =>
      let tailored := Profile.find tailoring profile
      let own := selectAll rules start tailored
      match tailored.bind Profile.extends? with
      | none => own
      | some base =>
          selectAll rules { own with extends? := some base } (Profile.find benchmark base)

end Resolution

end ClusterEvidence
