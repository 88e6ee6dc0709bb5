import ClusterEvidence.Json.Basic
import ClusterEvidence.Json.Fault
import ClusterEvidence.Text.Bytes

/-!
# Tokens of a JSON text

The bytes of a JSON text as tokens. The grammar is that of RFC 8259: white space is space, tab,
line feed and carriage return, and a string holds no raw character below U+0020.

A token keeps the value of its literal when it has one. A number beyond the largest double and a
string that is not text have none: that is a fault only where the value is wanted, because a field
that no record declares is skipped without looking at its values.

## Main results

* `length_lt_of_scan` — every token uses up at least one byte, so the text ends.
-/

namespace ClusterEvidence.Json

/-- A token with the value of its literal. -/
inductive Token where
  | openArray
  | closeArray
  | openObject
  | closeObject
  | colon
  | comma
  | null
  | bool (value : Bool)
  | number (value : Option Number)
  | string (value : Option String)
  deriving DecidableEq, Repr

namespace Token

/-! ## Strings -/

/-- What a string literal is made of: bytes that stand for themselves and escaped UTF-16 units. -/
inductive Unit where
  | byte (value : UInt8)
  | utf16 (value : Nat)
  deriving DecidableEq, Repr

/-- The value of a hexadecimal digit. -/
def hexDigit? (b : UInt8) : Option Nat :=
  if 0x30 ≤ b && b ≤ 0x39 then some (b.toNat - 0x30)
  else if 0x41 ≤ b && b ≤ 0x46 then some (b.toNat - 0x41 + 10)
  else if 0x61 ≤ b && b ≤ 0x66 then some (b.toNat - 0x61 + 10)
  else none

/-- The UTF-16 unit of four hexadecimal digits. -/
def hexUnit? (a b c d : UInt8) : Option Nat := do
  let a ← hexDigit? a
  let b ← hexDigit? b
  let c ← hexDigit? c
  let d ← hexDigit? d
  some (((a * 16 + b) * 16 + c) * 16 + d)

/-- The byte that a one-letter escape stands for. -/
def escaped? (b : UInt8) : Option UInt8 :=
  match b with
  | 0x22 => some 0x22
  | 0x5C => some 0x5C
  | 0x2F => some 0x2F
  | 0x62 => some 0x08
  | 0x66 => some 0x0C
  | 0x6E => some 0x0A
  | 0x72 => some 0x0D
  | 0x74 => some 0x09
  | _ => none

/-- The units up to the closing quote, and what follows it. -/
def scanString : Bytes → Option (List Unit × Bytes)
  | [] => none
  | 0x22 :: rest => some ([], rest)
  | 0x5C :: 0x75 :: a :: b :: c :: d :: rest => do
      let unit ← hexUnit? a b c d
      let (units, rest) ← scanString rest
      some (.utf16 unit :: units, rest)
  | 0x5C :: b :: rest => do
      let value ← escaped? b
      let (units, rest) ← scanString rest
      some (.byte value :: units, rest)
  | b :: rest =>
      if b < 0x20 || b == 0x5C then none
      else do
        let (units, rest) ← scanString rest
        some (.byte b :: units, rest)

/-- The bytes of the units; a surrogate that is not one of a pair has none. -/
def bytesOfUnits? : List Unit → Option Bytes
  | [] => some []
  | .byte b :: units => (bytesOfUnits? units).map (b :: ·)
  | .utf16 high :: .utf16 low :: units =>
      if 0xD800 ≤ high && high ≤ 0xDBFF then
        if 0xDC00 ≤ low && low ≤ 0xDFFF then
          let c := Char.ofNat (0x10000 + (high - 0xD800) * 1024 + (low - 0xDC00))
          (bytesOfUnits? units).map (String.utf8EncodeChar c ++ ·)
        else none
      else if 0xDC00 ≤ high && high ≤ 0xDFFF then none
      else (bytesOfUnits? (.utf16 low :: units)).map (String.utf8EncodeChar (Char.ofNat high) ++ ·)
  | .utf16 unit :: units =>
      if 0xD800 ≤ unit && unit ≤ 0xDFFF then none
      else (bytesOfUnits? units).map (String.utf8EncodeChar (Char.ofNat unit) ++ ·)

/-- The text of the units, if they are text. -/
def textOfUnits? (units : List Unit) : Option String :=
  (bytesOfUnits? units).bind Text.decodeString?

/-! ## Numbers -/

/-- An ASCII digit. -/
def isDigit (b : UInt8) : Bool := 0x30 ≤ b && b ≤ 0x39

/-- The number written by ASCII digits. -/
def valueOfDigits (digits : Bytes) : Nat :=
  digits.foldl (fun n b => n * 10 + (b.toNat - 0x30)) 0

/-- A run of digits, which must not be empty. -/
def scanDigits (bytes : Bytes) : Option (Bytes × Bytes) :=
  let digits := bytes.takeWhile isDigit
  if digits.isEmpty then none else some (digits, bytes.dropWhile isDigit)

/-- The digits before the point: no zero stands before another digit. -/
def scanWhole (bytes : Bytes) : Option (Bytes × Bytes) := do
  let (digits, rest) ← scanDigits bytes
  if digits.head? == some 0x30 && digits.length != 1 then none else some (digits, rest)

/-- The digits after the point, if there is one. -/
def scanFraction : Bytes → Option (Option Bytes × Bytes)
  | 0x2E :: rest => (scanDigits rest).map fun (digits, rest) => (some digits, rest)
  | bytes => some (none, bytes)

/-- The exponent, if there is one. -/
def scanExponent : Bytes → Option (Option Int × Bytes)
  | b :: rest =>
      if b == 0x65 || b == 0x45 then
        let (negative, rest) :=
          match rest with
          | 0x2B :: rest => (false, rest)
          | 0x2D :: rest => (true, rest)
          | _ => (false, rest)
        (scanDigits rest).map fun (digits, rest) =>
          let value : Int := valueOfDigits digits
          (some (if negative then -value else value), rest)
      else some (none, b :: rest)
  | [] => some (none, [])

/-- Appends digits to a significand as long as it fits in sixty-four bits: the significand and how
many digits it took. -/
def absorb (significand : Nat) : Bytes → Nat × Nat
  | [] => (significand, 0)
  | b :: digits =>
      let next := significand * 10 + (b.toNat - 0x30)
      if UInt64.size ≤ next then (significand, 0)
      else
        let (result, taken) := absorb next digits
        (result, taken + 1)

/-- The number of a literal. Digits alone are an integer when it fits in sixty-four bits, unsigned
or, after a minus, signed; minus zero is the double. The significand of a double are the leading
digits that fit in sixty-four bits; the others only count as places. -/
def numberOf (negative : Bool) (whole : Bytes) (fraction : Option Bytes) (exponent : Option Int) :
    Option Number :=
  let (significand, taken) := absorb 0 whole
  let dropped := whole.length - taken
  let isInteger :=
    fraction.isNone && exponent.isNone && dropped == 0 &&
      (!negative || (0 < significand && significand ≤ Nat.pow 2 63))
  if isInteger then
    some (.integer (if negative then -(significand : Int) else significand))
  else
    let (significand, places) := absorb significand (fraction.getD [])
    (Binary64.ofDecimal? negative significand (dropped - places + exponent.getD 0)).map .double

/-- A number literal after its minus, and what follows it. -/
def scanNumber (negative : Bool) (bytes : Bytes) : Option (Token × Bytes) := do
  let (whole, rest) ← scanWhole bytes
  let (fraction, rest) ← scanFraction rest
  let (exponent, rest) ← scanExponent rest
  some (.number (numberOf negative whole fraction exponent), rest)

/-! ## One token -/

/-- White space between tokens. -/
def isSpace (b : UInt8) : Bool := b == 0x20 || b == 0x09 || b == 0x0A || b == 0x0D

/-- The first token of a text that does not start with white space, and what follows it. -/
def scan : Bytes → Option (Token × Bytes)
  | 0x5B :: rest => some (.openArray, rest)
  | 0x5D :: rest => some (.closeArray, rest)
  | 0x7B :: rest => some (.openObject, rest)
  | 0x7D :: rest => some (.closeObject, rest)
  | 0x3A :: rest => some (.colon, rest)
  | 0x2C :: rest => some (.comma, rest)
  | 0x6E :: 0x75 :: 0x6C :: 0x6C :: rest => some (.null, rest)
  | 0x74 :: 0x72 :: 0x75 :: 0x65 :: rest => some (.bool true, rest)
  | 0x66 :: 0x61 :: 0x6C :: 0x73 :: 0x65 :: rest => some (.bool false, rest)
  | 0x22 :: rest => (scanString rest).map fun (units, rest) => (.string (textOfUnits? units), rest)
  | 0x2D :: rest => scanNumber true rest
  | bytes => scanNumber false bytes

/-! ## Every token uses up bytes -/

private theorem length_lt_of_scanString {bytes rest : Bytes} {units : List Unit}
    (h : scanString bytes = some (units, rest)) : rest.length < bytes.length := by
  fun_induction scanString bytes generalizing units rest with
  | case1 => simp at h
  | case2 => simp_all
  | case3 a b c d tail ih =>
      simp only [Option.bind_eq_bind, Option.bind_eq_some_iff, Option.some.injEq,
        Prod.mk.injEq] at h
      obtain ⟨_, _, ⟨_, _⟩, hscan, _, rfl⟩ := h
      have := ih hscan
      simp only [List.length_cons] at this ⊢
      omega
  | case4 b tail _ ih =>
      simp only [Option.bind_eq_bind, Option.bind_eq_some_iff, Option.some.injEq,
        Prod.mk.injEq] at h
      obtain ⟨_, _, ⟨_, _⟩, hscan, _, rfl⟩ := h
      have := ih hscan
      simp only [List.length_cons] at this ⊢
      omega
  | case5 => simp at h
  | case6 b tail _ _ _ _ ih =>
      simp only [Option.bind_eq_bind, Option.bind_eq_some_iff, Option.some.injEq,
        Prod.mk.injEq] at h
      obtain ⟨⟨_, _⟩, hscan, _, rfl⟩ := h
      have := ih hscan
      simp only [List.length_cons] at this ⊢
      omega

theorem length_lt_of_scanDigits {bytes digits rest : Bytes}
    (h : scanDigits bytes = some (digits, rest)) : rest.length < bytes.length := by
  simp only [scanDigits] at h
  split at h
  · simp at h
  · next hne =>
      simp only [Option.some.injEq, Prod.mk.injEq] at h
      obtain ⟨_, rfl⟩ := h
      have hsplit := congrArg List.length
        (List.takeWhile_append_dropWhile (p := isDigit) (l := bytes))
      rw [List.length_append] at hsplit
      have hpos : 0 < (bytes.takeWhile isDigit).length :=
        List.length_pos_iff.2 (by simpa using hne)
      omega

private theorem length_lt_of_scanWhole {bytes digits rest : Bytes}
    (h : scanWhole bytes = some (digits, rest)) : rest.length < bytes.length := by
  simp only [scanWhole, Option.bind_eq_bind, Option.bind_eq_some_iff] at h
  obtain ⟨⟨found, left⟩, hscan, h⟩ := h
  simp only at h
  split at h
  · simp at h
  · simp only [Option.some.injEq, Prod.mk.injEq] at h
    obtain ⟨_, rfl⟩ := h
    exact length_lt_of_scanDigits hscan

private theorem length_le_of_scanFraction {bytes rest : Bytes} {fraction : Option Bytes}
    (h : scanFraction bytes = some (fraction, rest)) : rest.length ≤ bytes.length := by
  unfold scanFraction at h
  split at h
  · simp only [Option.map_eq_some_iff, Prod.mk.injEq] at h
    obtain ⟨⟨_, _⟩, hscan, _, rfl⟩ := h
    have := length_lt_of_scanDigits hscan
    simp only [List.length_cons]
    omega
  · simp_all

private theorem length_le_of_scanExponent {bytes rest : Bytes} {exponent : Option Int}
    (h : scanExponent bytes = some (exponent, rest)) : rest.length ≤ bytes.length := by
  unfold scanExponent at h
  split at h
  · split at h
    · simp only [Option.map_eq_some_iff, Prod.mk.injEq] at h
      obtain ⟨⟨_, _⟩, hscan, _, rfl⟩ := h
      have := length_lt_of_scanDigits hscan
      simp only [List.length_cons]
      split at this <;> simp_all <;> omega
    · simp_all
  · simp_all

private theorem length_lt_of_scanNumber {negative : Bool} {bytes rest : Bytes} {token : Token}
    (h : scanNumber negative bytes = some (token, rest)) : rest.length < bytes.length := by
  simp only [scanNumber, Option.bind_eq_bind, Option.bind_eq_some_iff, Option.some.injEq,
    Prod.mk.injEq] at h
  obtain ⟨⟨_, _⟩, hwhole, ⟨_, _⟩, hfraction, ⟨_, _⟩, hexponent, _, rfl⟩ := h
  have h₁ := length_lt_of_scanWhole hwhole
  have h₂ := length_le_of_scanFraction hfraction
  have h₃ := length_le_of_scanExponent hexponent
  simp only at h₁ h₂ h₃ ⊢
  omega

/-- Every token uses up at least one byte. -/
theorem length_lt_of_scan {bytes rest : Bytes} {token : Token}
    (h : scan bytes = some (token, rest)) : rest.length < bytes.length := by
  unfold scan at h
  split at h
  case h_10 =>
    simp only [Option.map_eq_some_iff, Prod.mk.injEq] at h
    obtain ⟨⟨_, _⟩, hscan, _, rfl⟩ := h
    have := length_lt_of_scanString hscan
    simp only [List.length_cons]
    omega
  case h_11 =>
    have := length_lt_of_scanNumber h
    simp only [List.length_cons]
    omega
  case h_12 => exact length_lt_of_scanNumber h
  all_goals
    simp only [Option.some.injEq, Prod.mk.injEq] at h
    obtain ⟨_, rfl⟩ := h
    simp only [List.length_cons]
    omega

/-! ## All tokens -/

/-- The tokens of a text, or nothing when some part of it is none. -/
def all? (bytes : Bytes) : Option (List Token) :=
  match bytes with
  | [] => some []
  | b :: rest =>
      if isSpace b then all? rest
      else
        match _hscan : scan (b :: rest) with
        | none => none
        | some (token, left) => (all? left).map (token :: ·)
termination_by bytes.length
decreasing_by
  · simp
  · exact length_lt_of_scan _hscan

end Token

end ClusterEvidence.Json
