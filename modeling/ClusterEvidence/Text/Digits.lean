/-!
# Decimal numerals

The number that a run of ASCII digits writes. Leading zeros count for nothing here; a format that
forbids them says so itself.
-/

namespace ClusterEvidence.Text

/-- The number that decimal digits write. -/
def valueOfDigits (digits : List Char) : Nat :=
  digits.foldl (fun n c => n * 10 + (c.toNat - '0'.toNat)) 0

/-- The number that a text writes when it is one or more decimal digits. -/
def natural? (text : List Char) : Option Nat :=
  if text.isEmpty || !text.all Char.isDigit then none else some (valueOfDigits text)

end ClusterEvidence.Text
