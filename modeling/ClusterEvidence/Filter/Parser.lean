import ClusterEvidence.Filter.Basic
import ClusterEvidence.Json.Reader
import ClusterEvidence.Text.Cursor
import ClusterEvidence.Text.Digits
import ClusterEvidence.Traverse

/-!
# Reading a filter

The text of a filter is cut into stages at every `|` outside a string literal, and a stage into
path and literal at its `=`. Paths are then read segment by segment. Errors carry the byte offset
of what was not understood.

## Main results

* `length_lt_of_segment` — a segment uses up part of the path, so reading a path ends.
-/

namespace ClusterEvidence.Filter

open Text (Cursor isBlank byteLength)

/-! ## Cutting outside string literals -/

/-- Where a scan stands with respect to string literals. -/
inductive Quoting where
  | outside
  | inside
  | escaped
  deriving DecidableEq, Repr

/-- The state after one more character. -/
def Quoting.next (c : Char) : Quoting → Quoting
  | .outside => if c = '"' then .inside else .outside
  | .inside => if c = '\\' then .escaped else if c = '"' then .outside else .inside
  | .escaped => .inside

/-- The pieces of a text between the separators that stand outside string literals. -/
def cutOutside (separator : Char) : Quoting → List Char → List (List Char)
  | _, [] => [[]]
  | quoting, c :: text =>
      if quoting = .outside ∧ c = separator then [] :: cutOutside separator .outside text
      else
        match cutOutside separator (quoting.next c) text with
        | [] => [[c]]
        | piece :: pieces => (c :: piece) :: pieces

/-- Pieces of a text that begins at an offset, with one separator of one byte between them, as
cursors. -/
def cursors (offset : Nat) : List (List Char) → List Cursor
  | [] => []
  | piece :: pieces => ⟨offset, piece⟩ :: cursors (offset + byteLength piece + 1) pieces

/-! ## String literals -/

/-- The string that a JSON string literal stands for. -/
def stringOfLiteral (literal : List Char) : Except Json.Fault String :=
  match Json.readString (String.ofList literal) with
  | .ok (.string s) => .ok s
  | .ok _ => .error (.expected "a string")
  | .error fault => .error fault

/-- What follows an opening quote up to and with the first quote that is not escaped, and the text
after it. -/
def scanQuoted : (escaped : Bool) → List Char → Option (List Char × List Char)
  | _, [] => none
  | true, c :: text => (scanQuoted false text).map fun (body, rest) => (c :: body, rest)
  | false, c :: text =>
      if c = '"' then some (['"'], text)
      else (scanQuoted (c == '\\') text).map fun (body, rest) => (c :: body, rest)

/-- Reads the string literal at a cursor that stands on its opening quote. -/
def quoted (c : Cursor) : Except SyntaxError (String × Cursor) :=
  match scanQuoted false (c.rest.drop 1) with
  | none => .error ⟨c.offset, .unterminatedString⟩
  | some (body, rest) =>
      match stringOfLiteral ('"' :: body) with
      | .ok key => .ok (key, c.past ('"' :: body) rest)
      | .error fault => .error ⟨c.offset, .badString fault⟩

/-! ## Segments of a path -/

/-- A character that may begin a field name. -/
def isNameStart (c : Char) : Bool := c.isAlpha || c == '_'

/-- A character of a field name. -/
def isNameChar (c : Char) : Bool := c.isAlphanum || c == '_'

/-- A character of an index. -/
def isIndexChar (c : Char) : Bool := c.isDigit || c == '-'

/-- The index that a text writes: decimal digits after at most one minus, of a number that fits in
sixty-four bits with sign. -/
def index? (text : List Char) : Option Int :=
  let (negative, digits) :=
    match text with
    | '-' :: digits => (true, digits)
    | digits => (false, digits)
  match Text.natural? digits with
  | none => none
  | some n =>
      if negative then if n ≤ Nat.pow 2 63 then some (-(n : Int)) else none
      else if n < Nat.pow 2 63 then some n else none

/-- Reads the closing bracket, which white space may precede. -/
def closeBracket (step : Step) (c : Cursor) : Except SyntaxError (Step × Cursor) :=
  let c := c.skip isBlank
  match c.rest with
  | ']' :: _ => .ok (step, c.next)
  | _ => .error ⟨c.offset, .expectedClose⟩

/-- Reads `[]`, `["key"]` or `[n]` at a cursor that stands on the opening bracket. -/
def bracket (c : Cursor) : Except SyntaxError (Step × Cursor) :=
  let c := c.next.skip isBlank
  match c.rest with
  | ']' :: _ => .ok (.iterate, c.next)
  | '"' :: _ => do
      let (key, c) ← quoted c
      closeBracket (.field key) c
  | _ =>
      match index? (c.rest.takeWhile isIndexChar) with
      | some position => closeBracket (.index position) (c.skip isIndexChar)
      | none => .error ⟨c.offset, .expectedIndexOrKey⟩

/-- Reads one segment of a path. -/
def segment (c : Cursor) : Except SyntaxError (Step × Cursor) :=
  match c.rest with
  | '.' :: rest =>
      let c := c.next
      match rest with
      | [] => .error ⟨c.offset, .trailingDot⟩
      | '"' :: _ => (quoted c).map fun (key, c) => (.field key, c)
      | '[' :: _ => bracket c
      | d :: _ =>
          if isNameStart d then
            .ok (.field (String.ofList (c.rest.takeWhile isNameChar)), c.skip isNameChar)
          else .error ⟨c.offset, .expectedFieldName⟩
  | '[' :: _ => bracket c
  | rest => .error ⟨c.offset, .unexpected rest⟩

/-! ## A segment uses up part of the path -/

private theorem length_lt_of_scanQuoted {escaped : Bool} {text body rest : List Char}
    (h : scanQuoted escaped text = some (body, rest)) : rest.length < text.length := by
  induction text generalizing escaped body rest with
  | nil => simp [scanQuoted] at h
  | cons c text ih =>
      cases escaped with
      | true =>
          simp only [scanQuoted, Option.map_eq_some_iff, Prod.mk.injEq] at h
          obtain ⟨⟨_, _⟩, hscan, _, rfl⟩ := h
          have := ih hscan
          simp only [List.length_cons]
          omega
      | false =>
          rw [scanQuoted] at h
          split at h
          · simp_all
          · simp only [Option.map_eq_some_iff, Prod.mk.injEq] at h
            obtain ⟨⟨_, _⟩, hscan, _, rfl⟩ := h
            have := ih hscan
            simp only [List.length_cons]
            omega

private theorem length_lt_of_quoted {c d : Cursor} {key : String} (h : quoted c = .ok (key, d)) :
    d.rest.length < c.rest.length := by
  unfold quoted at h
  split at h
  · simp at h
  · next hscan =>
      split at h
      · simp only [Except.ok.injEq, Prod.mk.injEq] at h
        obtain ⟨_, rfl⟩ := h
        have hlt := length_lt_of_scanQuoted hscan
        simp only [List.length_drop] at hlt
        simp only [Cursor.past]
        omega
      · simp at h

private theorem length_le_of_closeBracket {c d : Cursor} {step found : Step}
    (h : closeBracket step c = .ok (found, d)) : d.rest.length ≤ c.rest.length := by
  unfold closeBracket at h
  simp only at h
  split at h
  · simp only [Except.ok.injEq, Prod.mk.injEq] at h
    obtain ⟨_, rfl⟩ := h
    exact Nat.le_trans (Cursor.length_next_le _) (Cursor.length_skip_le _ _)
  · simp at h

private theorem length_lt_of_bracket {c d : Cursor} {step : Step} (h : bracket c = .ok (step, d))
    (hc : c.rest ≠ []) : d.rest.length < c.rest.length := by
  have hinner : (c.next.skip isBlank).rest.length < c.rest.length :=
    Nat.lt_of_le_of_lt (Cursor.length_skip_le _ _) (Cursor.length_next_lt hc)
  unfold bracket at h
  simp only at h
  split at h
  · simp only [Except.ok.injEq, Prod.mk.injEq] at h
    obtain ⟨_, rfl⟩ := h
    exact Nat.lt_of_le_of_lt (Cursor.length_next_le _) hinner
  · cases hquoted : quoted (c.next.skip isBlank) with
    | error e => simp [hquoted, bind, Except.bind] at h
    | ok found =>
        simp only [hquoted, bind, Except.bind] at h
        have h₁ := length_lt_of_quoted hquoted
        have h₂ := length_le_of_closeBracket h
        omega
  · split at h
    · have h₁ := length_le_of_closeBracket h
      have h₂ := Cursor.length_skip_le isIndexChar (c.next.skip isBlank)
      omega
    · simp at h

/-- A segment uses up part of the path. -/
theorem length_lt_of_segment {c d : Cursor} {step : Step} (h : segment c = .ok (step, d)) :
    d.rest.length < c.rest.length := by
  unfold segment at h
  split at h
  · next rest hrest =>
      have hlt : c.next.rest.length < c.rest.length :=
        Cursor.length_next_lt (by simp [hrest])
      have hnext : c.next.rest = rest := by simp [Cursor.next, hrest]
      simp only at h
      split at h
      · simp at h
      · cases hquoted : quoted c.next with
        | error e => simp [hquoted, Except.map] at h
        | ok found =>
            simp only [hquoted, Except.map, Except.ok.injEq, Prod.mk.injEq] at h
            obtain ⟨_, rfl⟩ := h
            exact Nat.lt_trans (length_lt_of_quoted hquoted) hlt
      · exact Nat.lt_trans (length_lt_of_bracket h (by simp [hnext])) hlt
      · split at h
        · simp only [Except.ok.injEq, Prod.mk.injEq] at h
          obtain ⟨_, rfl⟩ := h
          exact Nat.lt_of_le_of_lt (Cursor.length_skip_le _ _) hlt
        · simp at h
  · next hrest => exact length_lt_of_bracket h (by simp [hrest])
  · simp at h

/-! ## Paths, stages and filters -/

/-- Reads the segments up to the end of a path. -/
def segments (c : Cursor) : Except SyntaxError (List Step) :=
  if c.rest.isEmpty then .ok []
  else
    match _hsegment : segment c with
    | .error e => .error e
    | .ok (step, d) => (segments d).map (step :: ·)
termination_by c.rest.length
decreasing_by exact length_lt_of_segment _hsegment

/-- Reads a path: a dot alone, or segments of which the first begins with a dot. -/
def path (c : Cursor) : Except SyntaxError (List Step) :=
  match c.rest with
  | ['.'] => .ok []
  | '.' :: _ => segments c
  | found => .error ⟨c.offset, .expectedPath found⟩

/-- Reads the literal of an assignment. -/
def literal (c : Cursor) : Except SyntaxError Json :=
  match Json.readString (String.ofList (Text.trim c.rest)) with
  | .ok value => .ok value
  | .error fault => .error ⟨c.offset, .badLiteral fault⟩

/-- Whether a text ends like the left side of a comparison. -/
def endsLikeComparison (text : List Char) : Bool :=
  match text.getLast? with
  | some c => c == '!' || c == '<' || c == '>'
  | none => false

/-- Reads one stage. -/
def stage (c : Cursor) : Except SyntaxError Stage :=
  let c := c.skip isBlank
  let text := Text.trimEnd c.rest
  if text = ['e', 'm', 'p', 't', 'y'] then .ok .empty
  else
    match cursors c.offset (cutOutside '=' .outside text) with
    | [whole] => (path { whole with rest := Text.trimEnd whole.rest }).map .path
    | [left, right] =>
        if right.rest.head? = some '=' ∨ endsLikeComparison left.rest then
          .error ⟨right.offset, .comparison⟩
        else do
          let steps ← path { left with rest := Text.trimEnd left.rest }
          let value ← literal right
          .ok (.assign steps value)
    | _ => .error ⟨c.offset, .chainedAssignment⟩

/-- Reads a filter. -/
def parse (source : String) : Except SyntaxError Filter := do
  let stages ← mapAll stage (cursors 0 (cutOutside '|' .outside source.toList))
  .ok ⟨stages⟩

end ClusterEvidence.Filter
