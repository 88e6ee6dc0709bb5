import ClusterEvidence.Keyed
import ClusterEvidence.Text.Bytes

/-!
# The outcome of fetching

What was fetched, stored under dump paths, and the warnings noted on the way. Where the server
reported an object missing a marker is stored instead of a body: a line that begins with
`# kube-api-error=` and names the reason.
-/

namespace ClusterEvidence

/-- Fetched bodies by dump path, and the warnings in the order in which they arose. -/
structure Outcome where
  results : Keyed Bytes
  warnings : List String

namespace Outcome

/-- The outcome before anything was fetched. -/
def empty : Outcome := ⟨.empty, []⟩

/-- The outcome with a body stored, in the place of an earlier one under the same dump path. -/
def store (outcome : Outcome) (dumpPath : String) (body : Bytes) : Outcome :=
  { outcome with results := outcome.results.insert dumpPath body }

/-- The outcome with a warning noted. -/
def warn (outcome : Outcome) (warning : String) : Outcome :=
  { outcome with warnings := outcome.warnings ++ [warning] }

/-! ## Markers -/

/-- How every marker begins. -/
def markerStart : Bytes := Text.encodeString "# kube-api-error="

/-- What is stored for an object that the server reported missing. -/
def marker (reason : String) : Bytes := markerStart ++ Text.encodeString reason

/-- A marker is one line, the reason at its end. -/
theorem marker_eq (reason : String) :
    marker reason = Text.encodeString ("# kube-api-error=" ++ reason) := by
  simp [marker, markerStart, Text.encodeString, Text.encode]

/-- Whether a body is a marker and not a fetched object. -/
def isMarker (body : Bytes) : Bool := markerStart.isPrefixOf body

/-- A marker is known as one. -/
theorem isMarker_marker (reason : String) : isMarker (marker reason) = true := by
  simp [isMarker, marker]

end Outcome

end ClusterEvidence
