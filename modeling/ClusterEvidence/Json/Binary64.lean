/-!
# Finite binary64 numbers

A number with a fraction or an exponent is a finite binary64 value, kept exactly as sign, mantissa
and binary exponent. Products and quotients are formed exactly and rounded to the nearest value,
ties to the even mantissa; reading a decimal multiplies or divides its significand by a power of
ten. Printing finds the fewest digits that lie in the interval of reals which round to the value,
and of those the nearest.
-/

namespace ClusterEvidence.Json

/-- The value `±mantissa · 2 ^ exponent`. A value that the reader makes has a mantissa below
`2 ^ 53`, an exponent of at least `-1074`, and a mantissa of at least `2 ^ 52` unless the exponent
is the least one. -/
structure Binary64 where
  negative : Bool
  mantissa : Nat
  exponent : Int
  deriving DecidableEq, Repr

namespace Binary64

/-- Positive zero. -/
def zero : Binary64 := ⟨false, 0, -1074⟩

/-- Equality of the values: zeros are equal whatever their sign. -/
def equal (a b : Binary64) : Bool :=
  a.mantissa == b.mantissa && a.exponent == b.exponent &&
    (a.negative == b.negative || a.mantissa == 0)

/-! ## Rounding a quotient -/

/-- The quotient rounded to the nearest integer, a tie to the even one. -/
def roundHalfEven (numerator denominator : Nat) : Nat :=
  let quotient := numerator / denominator
  let twice := 2 * (numerator % denominator)
  if twice < denominator then quotient
  else if denominator < twice then quotient + 1
  else if quotient % 2 = 0 then quotient else quotient + 1

/-- The fraction `numerator / denominator · 2 ^ power` as a numerator and a denominator. -/
def scaleTwo (numerator denominator : Nat) (power : Int) : Nat × Nat :=
  if 0 ≤ power then (numerator <<< power.toNat, denominator)
  else (numerator, denominator <<< (-power).toNat)

/-- The fraction `numerator / denominator · 10 ^ power` as a numerator and a denominator. -/
def scaleTen (numerator denominator : Nat) (power : Int) : Nat × Nat :=
  if 0 ≤ power then (numerator * Nat.pow 10 power.toNat, denominator)
  else (numerator, denominator * Nat.pow 10 (-power).toNat)

/-- The binary64 value nearest to a fraction, or nothing when it is out of range. The exponent is
the one that leaves fifty-three bits of quotient, and never below the least one. -/
def ofFraction? (negative : Bool) (numerator denominator : Nat) : Option Binary64 :=
  if numerator = 0 then some ⟨negative, 0, -1074⟩
  else
    let magnitude : Int := (numerator.log2 : Int) - (denominator.log2 : Int)
    let low : Int := max (-1074) (magnitude - 53)
    let (n, d) := scaleTwo numerator denominator (-low)
    let exponent := if n / d < Nat.pow 2 53 then low else low + 1
    let (n, d) := scaleTwo numerator denominator (-exponent)
    let mantissa := roundHalfEven n d
    let (mantissa, exponent) :=
      if mantissa = Nat.pow 2 53 then (Nat.pow 2 52, exponent + 1) else (mantissa, exponent)
    if exponent ≤ 971 then some ⟨negative, mantissa, exponent⟩ else none

/-- The product, or nothing when it is out of range. -/
def mul? (x y : Binary64) : Option Binary64 :=
  let (n, d) := scaleTwo (x.mantissa * y.mantissa) 1 (x.exponent + y.exponent)
  ofFraction? (x.negative != y.negative) n d

/-- The quotient by a value other than zero, or nothing when it is out of range. -/
def div? (x y : Binary64) : Option Binary64 :=
  let (n, d) := scaleTwo x.mantissa y.mantissa (x.exponent - y.exponent)
  ofFraction? (x.negative != y.negative) n d

/-! ## Reading a decimal

A decimal is a significand and a power of ten. It is read as the product or quotient of two
binary64 values, the significand and the power, each of them rounded. The result may differ from
the nearest value in its last bit, and a significand of few digits with a small power is exact. -/

/-- The power of ten nearest to `10 ^ n`, for `n` up to the largest one in range. -/
def tenPower (n : Nat) : Binary64 := (ofFraction? false (Nat.pow 10 n) 1).getD zero

/-- The largest power of ten in range. -/
def maxTenPower : Nat := 308

/-- Divides by a power of ten, in more than one step when the power is out of range. -/
def divTenPower (x : Binary64) (n : Nat) : Binary64 :=
  if n ≤ maxTenPower then (x.div? (tenPower n)).getD zero
  else if x.mantissa = 0 then x
  else divTenPower ((x.div? (tenPower maxTenPower)).getD zero) (n - maxTenPower)
termination_by n
decreasing_by simp only [maxTenPower] at *; omega

/-- The value of `significand · 10 ^ power`, or nothing when it is out of range. -/
def ofDecimal? (negative : Bool) (significand : Nat) (power : Int) : Option Binary64 := do
  let x ← ofFraction? false significand 1
  let x ←
    if power < 0 then some (divTenPower x (-power).toNat)
    else if power ≤ maxTenPower then x.mul? (tenPower power.toNat)
    else if x.mantissa = 0 then some x
    else none
  some { x with negative }

/-! ## The shortest decimal -/

/-- A decimal number `digits · 10 ^ power`. -/
structure Decimal where
  digits : Nat
  power : Int
  deriving DecidableEq, Repr

/-- How many decimal digits a number has; zero has one. -/
def digitCount (n : Nat) : Nat := (Nat.toDigits 10 n).length

/-- The place of the first digit of a positive fraction: the power of ten that it is at least and
ten times which it is below. -/
def firstPlace (numerator denominator : Nat) : Int :=
  if denominator ≤ numerator then (digitCount (numerator / denominator) : Int) - 1
  else -(digitCount ((denominator - 1) / numerator) : Int)

/-- The reals that round to a value, as fractions over one denominator: the value itself and the
two ends. The ends belong to the interval when the mantissa is even. -/
structure Interval where
  low : Nat
  value : Nat
  high : Nat
  denominator : Nat
  closed : Bool

/-- The rounding interval of a positive value. Below a power of two the neighbour is only half as
far away. -/
def interval (x : Binary64) : Interval :=
  let below := if x.mantissa = Nat.pow 2 52 ∧ -1074 < x.exponent then 1 else 2
  let (scale, denominator) := scaleTwo 1 1 (x.exponent - 2)
  { low := (4 * x.mantissa - below) * scale
    value := 4 * x.mantissa * scale
    high := (4 * x.mantissa + 2) * scale
    denominator
    closed := x.mantissa % 2 = 0 }

/-- Whether a decimal number lies in the interval. -/
def Interval.contains (i : Interval) (d : Decimal) : Bool :=
  let (n, m) := scaleTen d.digits 1 d.power
  let point := n * i.denominator
  let low := i.low * m
  let high := i.high * m
  if i.closed then low ≤ point && point ≤ high else low < point && point < high

/-- The better of the value's two neighbours on a decimal grid, if one of them rounds to the value:
the nearer one, of two as near the even one. -/
def Interval.onGrid? (i : Interval) (power : Int) : Option Decimal :=
  let (n, m) := scaleTen i.value i.denominator (-power)
  let lower : Decimal := ⟨n / m, power⟩
  let upper : Decimal := ⟨n / m + 1, power⟩
  let nearest : Decimal := ⟨roundHalfEven n m, power⟩
  match i.contains lower, i.contains upper with
  | true, true => some nearest
  | true, false => some lower
  | false, true => some upper
  | false, false => none

/-- The first hit on the grids with ever more digits; seventeen are always enough, so that the
last grid is only a bound for the search. -/
def Interval.search (i : Interval) (place : Int) : (digits more : Nat) → Decimal
  | digits, 0 =>
      let (n, m) := scaleTen i.value i.denominator (digits - 1 - place)
      ⟨roundHalfEven n m, place - digits + 1⟩
  | digits, more + 1 =>
      match i.onGrid? (place - digits + 1) with
      | some found => found
      | none => i.search place (digits + 1) more

/-- The decimal of fewest digits that reads back as the value, for a value other than zero. -/
def shortest (x : Binary64) : Decimal :=
  let i := x.interval
  i.search (firstPlace i.value i.denominator) 1 17

/-! ## The text -/

/-- A decimal without trailing zeros, as its digits and the place of the first one. -/
def Decimal.layout (d : Decimal) : List Char × Int :=
  let digits := Nat.toDigits 10 d.digits
  let kept := (digits.reverse.dropWhile (· == '0')).reverse
  (kept, (digits.length : Int) - 1 + d.power)

/-- The text of a positive decimal: positional when the first digit stands between the fifth place
after the point and the sixteenth before it, otherwise with an exponent that has its sign. -/
def Decimal.text (d : Decimal) : List Char :=
  let (digits, place) := d.layout
  let count := digits.length
  if 0 ≤ place ∧ place < 16 then
    let whole := place.toNat + 1
    if count ≤ whole then digits ++ List.replicate (whole - count) '0' ++ ['.', '0']
    else digits.take whole ++ '.' :: digits.drop whole
  else if -5 ≤ place ∧ place < 0 then
    '0' :: '.' :: List.replicate ((-place).toNat - 1) '0' ++ digits
  else
    let fraction := if count ≤ 1 then [] else '.' :: digits.drop 1
    let sign := if place < 0 then '-' else '+'
    digits.take 1 ++ fraction ++ 'e' :: sign :: Nat.toDigits 10 place.natAbs

/-- The text of a value; zero keeps its sign. -/
def text (x : Binary64) : List Char :=
  let positive := if x.mantissa = 0 then ['0', '.', '0'] else x.shortest.text
  if x.negative then '-' :: positive else positive

end Binary64

end ClusterEvidence.Json
