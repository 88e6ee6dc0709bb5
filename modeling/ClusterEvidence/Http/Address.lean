import ClusterEvidence.Http.Percent
import ClusterEvidence.Text.Blank

/-!
# Addresses of hosts

A host may be given by its number instead of its name. A number of four bytes is written as one to
four numbers between dots, the last of which stands for all bytes that are left; each may be in
octal, after a zero, or in hexadecimal, after `0x`. An address of sixteen bytes is written as eight
groups of four digits between colons, where two colons may stand for groups of zeros and the last
two groups may be written as four bytes.

An address is printed in one way only: as four bytes in decimal, or as groups without zeros in front
of them, the first longest run of several groups of zeros left out.
-/

namespace ClusterEvidence.Http.Address

/-- The number that digits of a base write. -/
def digits? (base : Nat) (text : List Char) : Option Nat :=
  match text.mapM hexValue? with
  | some values =>
      if values.all (· < base) then some (values.foldl (fun n digit => n * base + digit) 0)
      else none
  | none => none

/-! ## Four bytes -/

/-- A part of an address of four bytes. A mark of a base without digits is zero. -/
def part? : List Char → Option Nat
  | [] => none
  | '0' :: 'x' :: digits => digits? 16 digits
  | '0' :: 'X' :: digits => digits? 16 digits
  | '0' :: digits => digits? 8 digits
  | digits => digits? 10 digits

/-- The parts of a name between dots; a dot at the end counts for nothing. -/
def partsOf (name : List Char) : List (List Char) :=
  let parts := Text.splitOn '.' name
  if parts.getLast? = some [] then parts.dropLast else parts

/-- Whether the last part of a name is a number, so that the name has to be an address. -/
def endsInNumber (name : List Char) : Bool :=
  match (partsOf name).getLast? with
  | some last => (!last.isEmpty && last.all Char.isDigit) || (part? last).isSome
  | none => false

/-- The number that the parts of an address make up, given how much the first of them is worth. The
last one may fill all bytes that are left. -/
def number? (worth : Nat) : List Nat → Option Nat
  | [] => none
  | [last] => if last < worth * 256 then some last else none
  | byte :: rest =>
      if byte < 256 then (number? (worth / 256) rest).map (byte * worth + ·) else none

/-- The number of an address of four bytes. -/
def short? (name : List Char) : Option Nat := do
  let parts := partsOf name
  let numbers ← parts.mapM part?
  if 4 < parts.length then none else number? 0x1000000 numbers

/-- The text of an address of four bytes. -/
def shortText (number : Nat) : String :=
  String.intercalate "." ([0x1000000, 0x10000, 0x100, 1].map fun worth =>
    toString (number / worth % 256))

/-! ## Sixteen bytes -/

/-- The number of up to four hexadecimal digits. -/
def group? (text : List Char) : Option Nat :=
  if text.isEmpty || 4 < text.length then none else digits? 16 text

/-- A byte in decimal without zeros in front of it. -/
def byte? (text : List Char) : Option Nat :=
  match text with
  | ['0'] => some 0
  | [] | '0' :: _ => none
  | digits => (digits? 10 digits).filter (· < 256)

/-- The groups that the last part of an address stands for: itself, or two as four bytes. -/
def lastGroups? (text : List Char) : Option (List Nat) :=
  if text.contains '.' then
    match (Text.splitOn '.' text).mapM byte? with
    | some [a, b, c, d] => some [a * 256 + b, c * 256 + d]
    | _ => none
  else (group? text).map ([·])

/-- The groups that parts of an address stand for, of which the last may end it. -/
def groupsOf? (ends : Bool) : List (List Char) → Option (List Nat)
  | [] => some []
  | [last] => if ends then lastGroups? last else (group? last).map ([·])
  | part :: rest => do
      let group ← group? part
      let groups ← groupsOf? ends rest
      some (group :: groups)

/-- The groups between single colons; none in an empty text. -/
def groups? (ends : Bool) (text : List Char) : Option (List Nat) :=
  if text.isEmpty then some [] else groupsOf? ends (Text.splitOn ':' text)

/-- The parts of a text before and after its first double colon. -/
def cutDoubleColon : List Char → Option (List Char × List Char)
  | ':' :: ':' :: rest => some ([], rest)
  | c :: rest => (cutDoubleColon rest).map fun (before, after) => (c :: before, after)
  | [] => none

/-- The eight groups of an address; a double colon stands for the zeros that are missing. -/
def long? (text : List Char) : Option (List Nat) :=
  match cutDoubleColon text with
  | none => (groups? true text).filter (·.length = 8)
  | some (before, after) =>
      match groups? false before, groups? true after with
      | some before, some after =>
          let missing := 8 - (before.length + after.length)
          if missing = 0 then none else some (before ++ List.replicate missing 0 ++ after)
      | _, _ => none

/-- The number of zeros at the front of each tail of some groups. -/
def zeroRuns (groups : List Nat) : List Nat :=
  (List.range groups.length).map fun start => ((groups.drop start).takeWhile (· == 0)).length

/-- A group in hexadecimal. -/
def groupText (group : Nat) : String := String.ofList (Nat.toDigits 16 group)

/-- The text of an address of sixteen bytes. -/
def longText (groups : List Nat) : String :=
  let runs := zeroRuns groups
  let longest := runs.foldl max 0
  if longest < 2 then String.intercalate ":" (groups.map groupText)
  else
    let start := runs.findIdx (· == longest)
    String.intercalate ":" ((groups.take start).map groupText) ++ "::" ++
      String.intercalate ":" ((groups.drop (start + longest)).map groupText)

end ClusterEvidence.Http.Address
