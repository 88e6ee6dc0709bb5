import ClusterEvidence.Text.Bytes

/-!
# Places in a text by their bytes

A place in a text is the number of bytes in front of it. It is a place only between two characters
or at one end, so a text cannot be cut outside of its bytes or inside a character.

## Main results

* `slice?_append`, `sliceFrom?_append` — what stands between two places and behind one.
* `isValid_of_toList_eq` — the places of a string are its character boundaries.
-/

namespace ClusterEvidence.Text

/-- What stands in front of a place and behind it, if it is one. -/
def splitAt? : Nat → List Char → Option (List Char × List Char)
  | 0, text => some ([], text)
  | _ + 1, [] => none
  | n + 1, c :: text =>
      if c.utf8Size ≤ n + 1 then
        (splitAt? (n + 1 - c.utf8Size) text).map fun (front, rest) => (c :: front, rest)
      else none

/-- What stands behind a place. -/
def sliceFrom? (text : List Char) (start : Nat) : Option (List Char) :=
  (splitAt? start text).map (·.2)

/-- What stands between two places. -/
def slice? (text : List Char) (start stop : Nat) : Option (List Char) :=
  if start ≤ stop then
    (sliceFrom? text start).bind fun rest => (splitAt? (stop - start) rest).map (·.1)
  else none

private theorem splitAt?_append (front rest : List Char) :
    splitAt? (byteLength front) (front ++ rest) = some (front, rest) := by
  induction front with
  | nil =>
      rw [byteLength_nil, List.nil_append]
      cases rest <;> rfl
  | cons c front ih =>
      have hpos : 0 < c.utf8Size := c.utf8Size_pos
      have hlength : byteLength (c :: front) = (c.utf8Size - 1 + byteLength front) + 1 := by
        rw [byteLength_cons]
        omega
      have hrest : c.utf8Size - 1 + byteLength front + 1 - c.utf8Size = byteLength front := by
        omega
      rw [hlength, List.cons_append, splitAt?, if_pos (by omega), hrest, ih]
      rfl

theorem sliceFrom?_append (front rest : List Char) :
    sliceFrom? (front ++ rest) (byteLength front) = some rest := by
  rw [sliceFrom?, splitAt?_append]
  rfl

theorem slice?_append (front piece rest : List Char) :
    slice? (front ++ (piece ++ rest)) (byteLength front) (byteLength front + byteLength piece) =
      some piece := by
  have hlength : byteLength front + byteLength piece - byteLength front = byteLength piece := by
    omega
  rw [slice?, if_pos (Nat.le_add_right _ _), sliceFrom?_append, Option.bind_some, hlength,
    splitAt?_append]
  rfl

/-! ## Places of a string -/

theorem byteLength_toList (s : String) : byteLength s.toList = s.utf8ByteSize := by
  have hlength (text : List Char) : byteLength text = (String.ofList text).utf8ByteSize := by
    induction text with
    | nil => rfl
    | cons c text ih =>
        rw [byteLength_cons, ih, String.ofList_cons, String.utf8ByteSize_append,
          String.utf8ByteSize_singleton]
  rw [hlength, String.ofList_toList]

/-- What stands in front of a place ends on a boundary between characters. -/
theorem isValid_of_toList_eq {s : String} {front rest : List Char} (h : s.toList = front ++ rest) :
    (String.Pos.Raw.mk (byteLength front)).IsValid s := by
  rw [String.Pos.Raw.isValid_iff_exists_append]
  refine ⟨String.ofList front, String.ofList rest, ?_, ?_⟩
  · rw [← String.ofList_append, ← h, String.ofList_toList]
  · rw [String.rawEndPos, ← byteLength_toList, String.toList_ofList]

end ClusterEvidence.Text
