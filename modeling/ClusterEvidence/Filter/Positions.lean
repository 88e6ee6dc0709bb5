import ClusterEvidence.Filter.Parser
import ClusterEvidence.Text.Slice

/-!
# Reading a filter by byte positions

A filter can be read in its text as it stands: a position moves over the bytes of a path, single
bytes are looked at, and what stands between two positions is cut out. Offsets of errors are sums of
positions. A cut is possible only at places of the text, so a reading that cuts outside of it or
inside a character comes to a halt of its own (`Halt.outside`).

Reading a path is a loop over its positions. One turn of the loop reads a segment or a dot in front
of a bracket.

## Main results

* `lt_of_turn` — every turn moves forward, so that the loop ends.
-/

namespace ClusterEvidence.Filter.Positions

open Text (Cursor byteLength isBlank)

variable {α : Type}

/-- Why reading comes to a halt. -/
inductive Halt where
  /-- A cut outside of the text or inside a character. -/
  | outside
  | refused (error : SyntaxError)
  deriving DecidableEq, Repr

/-- Refuses the text at an offset. -/
def refuse (offset : Nat) (reason : SyntaxReason) : Except Halt α :=
  .error (.refused ⟨offset, reason⟩)

/-- What stands between two positions. -/
def cut (text : List Char) (start stop : Nat) : Except Halt (List Char) :=
  match Text.slice? text start stop with
  | some piece => .ok piece
  | none => .error .outside

/-- What stands behind a position. -/
def cutFrom (text : List Char) (start : Nat) : Except Halt (List Char) :=
  match Text.sliceFrom? text start with
  | some rest => .ok rest
  | none => .error .outside

/-! ## Pieces outside string literals -/

/-- The pieces from a position on, in a scan that has come to another one, with what is left. -/
def piecesFrom (separator : Char) (source : List Char) :
    Quoting → (start position : Nat) → List Char → Except Halt (List Cursor)
  | _, start, _, [] => do
      let piece ← cutFrom source start
      .ok [⟨start, piece⟩]
  | quoting, start, position, c :: rest =>
      let next := position + c.utf8Size
      if quoting = .outside ∧ c = separator then do
        let piece ← cut source start position
        let others ← piecesFrom separator source .outside next next rest
        .ok (⟨start, piece⟩ :: others)
      else piecesFrom separator source (quoting.next c) start next rest

/-- The pieces of a text between the separators that stand outside string literals, each with its
position. -/
def pieces (separator : Char) (source : List Char) : Except Halt (List Cursor) :=
  piecesFrom separator source .outside 0 0 source

/-! ## Parts of a segment -/

/-- How many bytes stand in front of the first quote that is not escaped. -/
def closingQuote? : (escaped : Bool) → List Char → Option Nat
  | _, [] => none
  | true, c :: text => (closingQuote? false text).map (c.utf8Size + ·)
  | false, c :: text =>
      if c = '"' then some 0 else (closingQuote? (c == '\\') text).map (c.utf8Size + ·)

/-- Reads the string literal whose opening quote stands at a position, and gives the position
behind it. -/
def quotedAt (path : List Char) (position offset : Nat) : Except Halt (String × Nat) := do
  let body ← cutFrom path (position + 1)
  match closingQuote? false body with
  | none => refuse (offset + position) .unterminatedString
  | some length =>
      let stop := position + 1 + length + 1
      let literal ← cut path position stop
      match stringOfLiteral literal with
      | .ok key => .ok (key, stop)
      | .error fault => refuse (offset + position) (.badString fault)

/-- Reads the key or index that stands in a bracket at a position, in front of a text. -/
def keyAt (path inner : List Char) (position offset : Nat) : Except Halt (Step × Nat) :=
  if inner.head? = some '"' then do
    let (key, stop) ← quotedAt path position offset
    .ok (.field key, stop)
  else do
    let length := byteLength (inner.takeWhile isIndexChar)
    let text ← cut inner 0 length
    match index? text with
    | some index => .ok (.index index, position + length)
    | none => refuse (offset + position) .expectedIndexOrKey

/-- Reads the closing bracket of a step behind a position. -/
def closeAt (path : List Char) (step : Step) (position offset : Nat) :
    Except Halt (Step × Nat) := do
  let tail ← cutFrom path position
  let close := position + (byteLength tail - byteLength (Text.trimStart tail))
  let rest ← cutFrom path close
  if rest.head? = some ']' then .ok (step, close + 1) else refuse (offset + close) .expectedClose

/-- Reads `[]`, `["key"]` or `[n]` whose opening bracket stands at a position. -/
def bracketAt (path : List Char) (position offset : Nat) : Except Halt (Step × Nat) := do
  let rest ← cutFrom path (position + 1)
  let inner := Text.trimStart rest
  let start := position + 1 + (byteLength rest - byteLength inner)
  if inner.head? = some ']' then .ok (.iterate, start + 1)
  else do
    let (step, stop) ← keyAt path inner start offset
    closeAt path step stop offset

/-! ## Paths -/

/-- The byte of a text at a position. -/
def byteAt? (text : List Char) (position : Nat) : Option UInt8 := (Text.encode text)[position]?

/-- The byte of an ASCII character. -/
def byteOf (c : Char) : UInt8 := UInt8.ofNat c.toNat

/-- A byte that may begin a field name. -/
def isNameStartByte (b : UInt8) : Bool := isNameStart (Char.ofNat b.toNat)

/-- A byte of a field name. -/
def isNameByte (b : UInt8) : Bool := isNameChar (Char.ofNat b.toNat)

/-- The position behind the field name that stands at a position. -/
def nameEnd (path : List Char) (position : Nat) : Nat :=
  position + (((Text.encode path).drop position).takeWhile isNameByte).length

/-- One turn at a position: the step that is read, if it reads one, and the position behind. -/
def turn (path : List Char) (offset position : Nat) (first : Bool) :
    Except Halt (Option Step × Nat) :=
  if byteAt? path position = some (byteOf '.') then
    match byteAt? path (position + 1) with
    | none =>
        if first then .ok (none, position + 1)
        else refuse (offset + (position + 1)) .trailingDot
    | some b =>
        if b = byteOf '"' then do
          let (key, stop) ← quotedAt path (position + 1) offset
          .ok (some (.field key), stop)
        else if b = byteOf '[' then .ok (none, position + 1)
        else if isNameStartByte b then do
          let stop := nameEnd path (position + 1)
          let name ← cut path (position + 1) stop
          .ok (some (.field (String.ofList name)), stop)
        else refuse (offset + (position + 1)) .expectedFieldName
  else if byteAt? path position = some (byteOf '[') then do
    let (step, stop) ← bracketAt path position offset
    .ok (some step, stop)
  else do
    let found ← cutFrom path position
    refuse (offset + position) (.unexpected found)

/-! ## Every turn moves forward -/

private theorem lt_of_quotedAt {path : List Char} {position offset stop : Nat} {key : String}
    (h : quotedAt path position offset = .ok (key, stop)) : position < stop := by
  unfold quotedAt at h
  cases hbody : cutFrom path (position + 1) with
  | error halt => simp [hbody, bind, Except.bind] at h
  | ok body =>
      simp only [hbody, bind, Except.bind] at h
      split at h
      · cases h
      · next length _ =>
          cases hcut : cut path position (position + 1 + length + 1) with
          | error halt => simp [hcut] at h
          | ok literal =>
              simp only [hcut] at h
              split at h
              · cases h
                omega
              · cases h

private theorem le_of_keyAt {path inner : List Char} {position offset stop : Nat} {step : Step}
    (h : keyAt path inner position offset = .ok (step, stop)) : position ≤ stop := by
  unfold keyAt at h
  split at h
  · cases hquoted : quotedAt path position offset with
    | error halt => simp [hquoted, bind, Except.bind] at h
    | ok found =>
        have hlt := lt_of_quotedAt hquoted
        simp only [hquoted, bind, Except.bind, Except.ok.injEq, Prod.mk.injEq] at h
        omega
  · cases hcut : cut inner 0 (byteLength (inner.takeWhile isIndexChar)) with
    | error halt => simp [hcut, bind, Except.bind] at h
    | ok text =>
        simp only [hcut, bind, Except.bind] at h
        split at h
        · cases h
          omega
        · cases h

private theorem lt_of_closeAt {path : List Char} {position offset stop : Nat} {step found : Step}
    (h : closeAt path step position offset = .ok (found, stop)) : position < stop := by
  unfold closeAt at h
  cases htail : cutFrom path position with
  | error halt => simp [htail, bind, Except.bind] at h
  | ok tail =>
      simp only [htail, bind, Except.bind] at h
      split at h
      · cases h
      · split at h
        · cases h
          omega
        · cases h

private theorem lt_of_bracketAt {path : List Char} {position offset stop : Nat} {step : Step}
    (h : bracketAt path position offset = .ok (step, stop)) : position < stop := by
  unfold bracketAt at h
  cases hrest : cutFrom path (position + 1) with
  | error halt => simp [hrest, bind, Except.bind] at h
  | ok rest =>
      simp only [hrest, bind, Except.bind] at h
      split at h
      · cases h
        omega
      · split at h
        · cases h
        · next hkey =>
            have hle := le_of_keyAt hkey
            have hlt := lt_of_closeAt h
            omega

/-- Every turn moves forward. -/
theorem lt_of_turn {path : List Char} {offset position stop : Nat} {first : Bool}
    {step : Option Step} (h : turn path offset position first = .ok (step, stop)) :
    position < stop := by
  unfold turn at h
  split at h
  · split at h
    · split at h
      · cases h
        omega
      · cases h
    · split at h
      · cases hquoted : quotedAt path (position + 1) offset with
        | error halt => simp [hquoted, bind, Except.bind] at h
        | ok found =>
            have hlt := lt_of_quotedAt hquoted
            simp only [hquoted, bind, Except.bind, Except.ok.injEq, Prod.mk.injEq] at h
            omega
      · split at h
        · cases h
          omega
        · split at h
          · cases hcut : cut path (position + 1) (nameEnd path (position + 1)) with
            | error halt => simp [hcut, bind, Except.bind] at h
            | ok name =>
                simp only [hcut, bind, Except.bind, Except.ok.injEq, Prod.mk.injEq] at h
                have hend : position + 1 ≤ nameEnd path (position + 1) := Nat.le_add_right _ _
                omega
          · cases h
  · split at h
    · cases hbracket : bracketAt path position offset with
      | error halt => simp [hbracket, bind, Except.bind] at h
      | ok found =>
          have hlt := lt_of_bracketAt hbracket
          simp only [hbracket, bind, Except.bind, Except.ok.injEq, Prod.mk.injEq] at h
          omega
    · cases hfound : cutFrom path position with
      | error halt => simp [hfound, bind, Except.bind] at h
      | ok found =>
          simp only [hfound, bind, Except.bind] at h
          cases h

/-! ## Stages and filters -/

/-- The steps read so far, and those from a position on. -/
def stepsFrom (path : List Char) (offset position : Nat) (done : List Step) :
    Except Halt (List Step) :=
  if position < byteLength path then
    match _hturn : turn path offset position done.isEmpty with
    | .error halt => .error halt
    | .ok (step, stop) => stepsFrom path offset stop (done ++ step.toList)
  else .ok done
termination_by byteLength path - position
decreasing_by
  have := lt_of_turn _hturn
  omega

/-- Reads a path that stands at an offset. -/
def pathAt (path : List Char) (offset : Nat) : Except Halt (List Step) :=
  if byteAt? path 0 = some (byteOf '.') then stepsFrom path offset 0 []
  else refuse offset (.expectedPath path)

/-- Reads one stage. -/
def stageAt (c : Cursor) : Except Halt Stage :=
  let text := Text.trim c.rest
  let offset := c.offset + (byteLength c.rest - byteLength (Text.trimStart c.rest))
  if text = ['e', 'm', 'p', 't', 'y'] then .ok .empty
  else do
    let parts ← pieces '=' text
    match parts with
    | [whole] => (pathAt (Text.trimEnd whole.rest) offset).map .path
    | [left, right] =>
        if right.rest.head? = some '=' ∨ endsLikeComparison left.rest then
          refuse (offset + right.offset) .comparison
        else do
          let steps ← pathAt (Text.trimEnd left.rest) offset
          match Json.readString (String.ofList (Text.trim right.rest)) with
          | .ok value => .ok (.assign steps value)
          | .error fault => refuse (offset + right.offset) (.badLiteral fault)
    | _ => refuse offset .chainedAssignment

/-- Reads a filter. -/
def parse (source : String) : Except Halt Filter := do
  let parts ← pieces '|' source.toList
  let stages ← mapAll stageAt parts
  .ok ⟨stages⟩

end ClusterEvidence.Filter.Positions
