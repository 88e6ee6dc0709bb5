/-!
# Runs of characters

A property of characters mostly holds of whole runs of codes. So the tables of such properties are
lists of runs, each by its first and last code, in ascending order.
-/

namespace ClusterEvidence.Text

/-- Runs of codes, by their first and last ones. -/
abbrev Runs := List (Nat × Nat)

/-- Whether a character is in one of some runs. -/
def Runs.holds (runs : Runs) (c : Char) : Bool :=
  runs.any fun (first, last) => first ≤ c.toNat && c.toNat ≤ last

end ClusterEvidence.Text
