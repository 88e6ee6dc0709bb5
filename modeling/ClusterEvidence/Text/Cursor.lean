import ClusterEvidence.Text.Blank
import ClusterEvidence.Text.Bytes

/-!
# A place in a text

A cursor is what is left of a text and the byte offset at which it begins. Parsers that report
offsets move cursors; a move leaves no more of the text than there was, so that moving ends.
-/

namespace ClusterEvidence.Text

/-- What is left of a text, and the byte offset where it begins. -/
structure Cursor where
  offset : Nat
  rest : List Char
  deriving DecidableEq, Repr

namespace Cursor

/-- Moves over one character, if there is one. -/
def next (c : Cursor) : Cursor :=
  match c.rest with
  | [] => c
  | d :: rest => ⟨c.offset + d.utf8Size, rest⟩

/-- Moves over the longest run of characters of a class. -/
def skip (p : Char → Bool) (c : Cursor) : Cursor :=
  ⟨c.offset + byteLength (c.rest.takeWhile p), c.rest.dropWhile p⟩

/-- Moves over a given text, which stands in front of what is left. -/
def past (text rest : List Char) (c : Cursor) : Cursor := ⟨c.offset + byteLength text, rest⟩

theorem length_skip_le (p : Char → Bool) (c : Cursor) :
    (c.skip p).rest.length ≤ c.rest.length :=
  (List.dropWhile_sublist p).length_le

theorem length_next_le (c : Cursor) : c.next.rest.length ≤ c.rest.length := by
  obtain ⟨offset, rest⟩ := c
  cases rest <;> simp [next]

theorem length_next_lt {c : Cursor} (h : c.rest ≠ []) :
    c.next.rest.length < c.rest.length := by
  obtain ⟨offset, rest⟩ := c
  cases rest with
  | nil => exact absurd rfl h
  | cons d rest => simp [next]

end Cursor

end ClusterEvidence.Text
