/-!
# Labels of domain names in ASCII

A label that holds characters beyond ASCII is written in ASCII (Punycode, RFC 3492): first its ASCII
characters and a hyphen, then the places where the others are put in, in the order of their codes.
Each place is a distance from the one before it, over all places and all codes in between. It is
written in digits of base 36; how many digits follow is seen from a threshold for each digit, which
adapts to the distances that have come before.

A threshold lies between one and twenty-six, so that writing a distance ends: what is left to write
becomes less with every digit.
-/

namespace ClusterEvidence.Http.Domain.Punycode

/-! ## Digits -/

/-- The digit of a value: the letters, then the digits. -/
def digit (value : Nat) : Char :=
  if value < 26 then Char.ofNat (97 + value) else Char.ofNat (22 + value)

/-- The value of a digit. -/
def digitValue? (c : Char) : Option Nat :=
  if c.isDigit then some (c.toNat - 22)
  else if 'a' ≤ c && c ≤ 'z' then some (c.toNat - 97)
  else if 'A' ≤ c && c ≤ 'Z' then some (c.toNat - 65)
  else none

/-- The threshold of the digit at a place, which counts in steps of 36 from 36 on: a lower digit is
the last one. -/
def threshold (bias place : Nat) : Nat := max 1 (min 26 (place - bias))

private theorem threshold_pos (bias place : Nat) : 0 < threshold bias place :=
  Nat.lt_of_lt_of_le Nat.one_pos (Nat.le_max_left _ _)

/-- Takes a distance down to a size whose digits are few, and counts the steps in places. -/
def settle (distance place : Nat) : Nat × Nat :=
  if 455 < distance then settle (distance / 35) (place + 36) else (distance, place)
termination_by distance
decreasing_by exact Nat.div_lt_self (by omega) (by decide)

/-- The bias after a distance, with so many characters placed; the first one counts less. -/
def adapt (distance count : Nat) (first : Bool) : Nat :=
  let distance := if first then distance / 700 else distance / 2
  let (distance, place) := settle (distance + distance / count) 0
  place + 36 * distance / (distance + 38)

/-! ## Writing -/

/-- The digits of a distance, from a place on. -/
def digits (bias place distance : Nat) : List Char :=
  let least := threshold bias place
  if distance < least then [digit distance]
  else
    digit (least + (distance - least) % (36 - least)) ::
      digits bias (place + 36) ((distance - least) / (36 - least))
termination_by distance
decreasing_by
  have hpos := threshold_pos bias place
  have hle := Nat.div_le_self (distance - threshold bias place) (36 - threshold bias place)
  omega

/-- Where writing stands. -/
structure Writing where
  /-- The code of the last character that was placed. -/
  code : Nat
  /-- How many characters were placed. -/
  count : Nat
  /-- The distance since then. -/
  distance : Nat
  bias : Nat
  /-- Whether no character beyond ASCII was placed. -/
  first : Bool

/-- Writes the places of the next higher code in a text. -/
def writeCode (writing : Writing) : List Char → List Char × Writing
  | [] => ([], writing)
  | c :: text =>
      if c.toNat < writing.code then
        writeCode { writing with distance := writing.distance + 1 } text
      else if c.toNat = writing.code then
        let written := digits writing.bias 36 writing.distance
        let bias := adapt writing.distance (writing.count + 1) writing.first
        let (others, writing) := writeCode
          { writing with count := writing.count + 1, distance := 0, bias, first := false } text
        (written ++ others, writing)
      else writeCode writing text

/-- Writes the places of all codes in a list. -/
def writeCodes (text : List Char) (writing : Writing) : List Nat → List Char
  | [] => []
  | code :: codes =>
      let distance := writing.distance + (code - writing.code) * (writing.count + 1)
      let (written, writing) := writeCode { writing with code, distance } text
      let writing :=
        { writing with code := writing.code + 1, distance := writing.distance + 1 }
      written ++ writeCodes text writing codes

/-- Whether a character is one of ASCII. -/
def isAscii (c : Char) : Bool := c.toNat < 0x80

/-- The codes beyond ASCII in a text, in order and each of them once. -/
def codes (text : List Char) : List Nat :=
  ((text.filter (!isAscii ·)).map Char.toNat).mergeSort (· ≤ ·) |>.eraseDups

/-- A label in ASCII, without the mark in front of it. -/
def encode (label : List Char) : List Char :=
  let plain := label.filter isAscii
  let start : Writing := ⟨0x80, plain.length, 0, 72, true⟩
  plain ++ (if plain.isEmpty then [] else ['-']) ++ writeCodes label start (codes label)

/-! ## Reading -/

/-- The distance that digits write from a place on, each of them worth so much, added to a number,
and what follows. Numbers stay below `2 ^ 32`. -/
def readDistance (bias place weight number : Nat) : List Char → Option (Nat × List Char)
  | [] => none
  | c :: text => do
      let value ← digitValue? c
      let number := number + value * weight
      let least := threshold bias place
      if UInt32.size ≤ number then none
      else if value < least then some (number, text)
      else
        let weight := weight * (36 - least)
        if UInt32.size ≤ weight then none
        else readDistance bias (place + 36) weight number text

theorem length_lt_of_readDistance {bias place weight number result : Nat} {text rest : List Char}
    (h : readDistance bias place weight number text = some (result, rest)) :
    rest.length < text.length := by
  induction text generalizing place weight number with
  | nil => simp [readDistance] at h
  | cons c text ih =>
      simp only [readDistance, Option.bind_eq_bind, Option.bind_eq_some_iff,
        Option.ite_none_left_eq_some] at h
      obtain ⟨value, _, _, h⟩ := h
      split at h
      · simp only [Option.some.injEq, Prod.mk.injEq] at h
        exact h.2 ▸ Nat.lt_succ_self _
      · split at h
        · simp at h
        · exact Nat.lt_trans (ih h) (Nat.lt_succ_self _)

/-- Puts characters into a text at the places that are written, from a code and a place on. -/
def readPlaces (bias code place : Nat) (done : List Char) (text : List Char) :
    Option (List Char) :=
  if text.isEmpty then some done
  else
    match h : readDistance bias 36 1 place text with
    | none => none
    | some (number, rest) =>
        have : rest.length < text.length := length_lt_of_readDistance h
        let count := done.length + 1
        let bias := adapt (number - place) count (place = 0)
        let code := code + number / count
        let place := number % count
        if code.isValidChar then
          let done := done.take place ++ Char.ofNat code :: done.drop place
          readPlaces bias code (place + 1) done rest
        else none
termination_by text.length

/-- The label that a text in ASCII writes. A hyphen at the front separates nothing. -/
def decode? (text : List Char) : Option (List Char) :=
  let tail := (text.reverse.takeWhile (· != '-')).reverse
  let plain := text.take (text.length - tail.length - 1)
  if !text.all isAscii then none
  else if plain.isEmpty then readPlaces 72 0x80 0 [] text
  else readPlaces 72 0x80 0 (plain.map Char.toLower) tail

end ClusterEvidence.Http.Domain.Punycode
