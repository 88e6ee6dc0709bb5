/-!
# What can be wrong with a JSON text

The causes for which reading a JSON text fails, as a value or as a record with declared fields.
-/

namespace ClusterEvidence.Json

/-- Why a JSON text was refused. -/
inductive Fault where
  /-- The text does not follow the grammar. -/
  | malformed
  /-- More than a hundred and twenty-seven arrays and objects are nested. -/
  | tooDeep
  /-- A number is beyond the largest double. -/
  | outOfRange
  /-- A string holds ill-formed UTF-8 or an unpaired surrogate. -/
  | notText
  /-- A value of another kind was required. -/
  | expected (what : String)
  /-- A declared field is given twice. -/
  | duplicateField (name : String)
  /-- A field without a default is not given. -/
  | missingField (name : String)
  /-- An array gives more elements than there are fields. -/
  | extraElements
  deriving DecidableEq, Repr

/-- The wording of a fault. -/
def Fault.message : Fault → String
  | .malformed => "malformed JSON text"
  | .tooDeep => "recursion limit exceeded"
  | .outOfRange => "number out of range"
  | .notText => "invalid unicode in a string"
  | .expected what => s!"expected {what}"
  | .duplicateField name => s!"duplicate field `{name}`"
  | .missingField name => s!"missing field `{name}`"
  | .extraElements => "trailing elements"

end ClusterEvidence.Json
