import ClusterEvidence.Filter.Parser
import ClusterEvidence.Filter.Run
import ClusterEvidence.Json.Printer

/-!
# The result of a filter

A fetched document is replaced by the first value that its filter makes of it. A filter that makes
none has failed; one that makes more is noted with a warning.
-/

namespace ClusterEvidence

/-- What a filter left of a document. -/
structure Filtered where
  /-- The first result, in compact form. -/
  body : Bytes
  /-- Whether there were further results. -/
  extraResults : Bool
  deriving DecidableEq, Repr

namespace Filter

/-- Why a document could not be filtered: the filter failed, or the document is no JSON. -/
inductive Failure where
  | filter (fault : Fault)
  | document (fault : Json.Fault)
  deriving DecidableEq, Repr

/-- The first result of a filter on a value. -/
def first (filter : Filter) (value : Json) : Except Fault Filtered :=
  match filter.run value with
  | .error fault => .error (.runtime fault)
  | .ok [] => .error .noResult
  | .ok (result :: others) => .ok ⟨result.compactBytes, !others.isEmpty⟩

/-- Filters a document. The filter is read before the document is. -/
def applyTo (source : String) (document : Bytes) : Except Failure Filtered :=
  match parse source with
  | .error error => .error (.filter (.malformed error))
  | .ok filter =>
      match Json.read document with
      | .error fault => .error (.document fault)
      | .ok value =>
          match filter.first value with
          | .error fault => .error (.filter fault)
          | .ok filtered => .ok filtered

/-- The warning about results that were left out. -/
def extraResultsWarning (source : String) : String :=
  "Skipping extra results from filter '" ++ source ++
    "': more than one object returned from the filter"

end Filter

end ClusterEvidence
