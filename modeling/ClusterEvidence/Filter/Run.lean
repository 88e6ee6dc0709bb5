import ClusterEvidence.Filter.Basic
import ClusterEvidence.Traverse

/-!
# Running a filter

A filter pushes the whole list of values through one stage at a time, and a path stage pushes it
through one step at a time; the first fault in that order is the one reported. A missing member or
item is null, and null has null at every key and index, so that a path may lead past the end of
what is there. Iterating needs something to iterate over.

Assignment makes what is missing on its way: null becomes an object or an array, and an array
grows to the index that is assigned.
-/

namespace ClusterEvidence.Filter

/-! ## Selecting -/

/-- The place of an item that an index names, when there is one. -/
def resolve (position : Int) (size : Nat) : Option Nat :=
  let place := if position < 0 then size + position else position
  if 0 ≤ place ∧ place < size then some place.toNat else none

/-- What one step leads to. -/
def Step.apply : Step → Json → Except RunFault (List Json)
  | .field key, .object members => .ok [(Entries.get? key members).getD .null]
  | .field _, .null => .ok [.null]
  | .field key, value => .error (.indexedByKey value.kindName key)
  | .index position, .array items =>
      .ok [((resolve position items.length).bind fun i => items[i]?).getD .null]
  | .index _, .null => .ok [.null]
  | .index _, value => .error (.indexedByNumber value.kindName)
  | .iterate, .array items => .ok items
  | .iterate, .object members => .ok (members.map (·.2))
  | .iterate, value => .error (.iterated value.kindName)

/-- What the steps of a path lead to, all values taking one step before any takes the next. -/
def selectAll : List Step → List Json → Except RunFault (List Json)
  | [], values => .ok values
  | step :: steps, values => do
      let values ← gather step.apply values
      selectAll steps values

/-- What a path leads to. -/
def select (steps : List Step) (value : Json) : Except RunFault (List Json) :=
  selectAll steps [value]

/-! ## Assigning -/

/-- The largest index that an assignment may grow an array to. -/
def maxAssignIndex : Int := 536870912

/-- The place that an index names for assignment, and the items with nulls added up to it. -/
def place (position : Int) (items : List Json) : Except RunFault (Nat × List Json) :=
  match resolve position items.length with
  | some i => .ok (i, items)
  | none =>
      if maxAssignIndex < position then .error .indexTooLarge
      else if 0 ≤ position then
        let i := position.toNat
        .ok (i, items ++ List.replicate (i + 1 - items.length) .null)
      else .error .indexBeforeStart

/-- The value with a literal at every place that a path leads to. -/
def assign (literal : Json) : List Step → Json → Except RunFault Json
  | [], _ => .ok literal
  | .field key :: steps, value =>
      match value with
      | .null => do
          let new ← assign literal steps .null
          .ok (.object [(key, new)])
      | .object members => do
          let new ← assign literal steps ((Entries.get? key members).getD .null)
          .ok (.object (Entries.insert key new members))
      | value => .error (.indexedByKey value.kindName key)
  | .index position :: steps, value =>
      match value with
      | .null => do
          let (i, items) ← place position []
          let new ← assign literal steps .null
          .ok (.array (items.set i new))
      | .array items => do
          let (i, items) ← place position items
          let new ← assign literal steps (items[i]?.getD .null)
          .ok (.array (items.set i new))
      | value => .error (.indexedByNumber value.kindName)
  | .iterate :: steps, value =>
      match value with
      | .array items => do
          let items ← mapAll (assign literal steps) items
          .ok (.array items)
      | .object members => do
          let members ← mapAll
            (fun member => (assign literal steps member.2).map fun new => (member.1, new)) members
          .ok (.object members)
      | .null => .ok .null
      | value => .error (.iterated value.kindName)

/-! ## Stages -/

/-- The values that one stage makes of one value. -/
def Stage.apply : Stage → Json → Except RunFault (List Json)
  | .empty, _ => .ok []
  | .path steps, value => select steps value
  | .assign steps literal, value => (Filter.assign literal steps value).map fun new => [new]

/-- The values that come out of stages when all of them pass one stage before any passes the
next. -/
def runAll : List Stage → List Json → Except RunFault (List Json)
  | [], values => .ok values
  | stage :: stages, values => do
      let values ← gather stage.apply values
      runAll stages values

/-- The values that a filter makes of a value. -/
def run (filter : Filter) (value : Json) : Except RunFault (List Json) :=
  runAll filter.stages [value]

/-! ## Depth first

The same values come out when each is sent through all that is left, steps and stages, before the
next one starts. A failure may then be a different one, since another value meets its fault
first. -/

/-- What comes of a value that takes steps and then the rest, each value that a step leads to going
to the end before the next one starts. -/
def selectThen (rest : Json → Except RunFault (List Json)) :
    List Step → Json → Except RunFault (List Json)
  | [], value => rest value
  | step :: steps, value => do
      let values ← step.apply value
      gather (selectThen rest steps) values

/-- The values that come out of stages, one value at a time. -/
def runDepthFirst : List Stage → Json → Except RunFault (List Json)
  | [], value => .ok [value]
  | .empty :: _, _ => .ok []
  | .path steps :: stages, value => selectThen (runDepthFirst stages) steps value
  | .assign steps literal :: stages, value => do
      let new ← assign literal steps value
      runDepthFirst stages new

end ClusterEvidence.Filter
