import ClusterEvidence.Text.Bytes

/-!
# Base 64

Four digits stand for three bytes. The last group may have two or three digits only, which stand for
one or two bytes; the bits that are left over have to be zero. Such a group may be filled up with
equals signs, wholly or in part.
-/

namespace ClusterEvidence.Text.Base64

/-- The value of a digit. -/
def digit? (byte : UInt8) : Option Nat :=
  let n := byte.toNat
  if 65 ≤ n && n ≤ 90 then some (n - 65)
  else if 97 ≤ n && n ≤ 122 then some (n - 71)
  else if 48 ≤ n && n ≤ 57 then some (n + 4)
  else if n = 43 then some 62
  else if n = 47 then some 63
  else none

/-- The bytes that a last group of digits stands for, if it has two or three. -/
def lastGroup? : List Nat → Option Bytes
  | [] => some []
  | [a, b] =>
      let n := a * 64 + b
      if n % 16 = 0 then some [UInt8.ofNat (n / 16)] else none
  | [a, b, c] =>
      let n := (a * 64 + b) * 64 + c
      if n % 4 = 0 then some [UInt8.ofNat (n / 1024), UInt8.ofNat (n / 4)] else none
  | _ => none

/-- The bytes that digits stand for. -/
def ofDigits? : List Nat → Option Bytes
  | a :: b :: c :: d :: digits => do
      let n := ((a * 64 + b) * 64 + c) * 64 + d
      let bytes ← ofDigits? digits
      some (UInt8.ofNat (n / 65536) :: UInt8.ofNat (n / 256) :: UInt8.ofNat n :: bytes)
  | digits => lastGroup? digits

/-- The equals sign. -/
def filler : UInt8 := 61

/-- The bytes of a text in base 64. Equals signs fill up the last group and go no further. -/
def decode? (text : Bytes) : Option Bytes := do
  let symbols := text.takeWhile (· != filler)
  let fillers := text.dropWhile (· != filler)
  let digits ← symbols.mapM digit?
  let room := if digits.length % 4 < 2 then 0 else 4 - digits.length % 4
  if fillers.all (· == filler) && fillers.length ≤ room then ofDigits? digits else none

end ClusterEvidence.Text.Base64
