/-!
# Reading items until an end

Formats repeat: content goes on until its end tag, attributes until the tag closes. The loop that
they share is here. It ends because every item uses up a part of the text (`UsesUp`), which is shown
once for each reader of items, so that nothing is counted while reading.

## Main results

* `length_of_after?`, `length_add_le_of_cutAt` — how much the small readers use up.
* `length_le_of_readUntil` — what is left behind an end is no longer than the text.
-/

namespace ClusterEvidence.Text

variable {α β : Type}

/-! ## Repetition -/

/-- A reader that leaves less of a text than it was given. -/
def UsesUp (item : List Char → Option (α × List Char)) : Prop :=
  ∀ {text rest : List Char} {a : α}, item text = some (a, rest) → rest.length < text.length

/-- Reads items one after another until an end is read; the items, and what the end gave. -/
def readUntil (finish : List Char → Option β) (item : List Char → Option (α × List Char))
    (usesUp : UsesUp item) (text : List Char) : Option (List α × β) :=
  match finish text with
  | some b => some ([], b)
  | none =>
      match h : item text with
      | none => none
      | some (a, rest) =>
          have : rest.length < text.length := usesUp h
          (readUntil finish item usesUp rest).map fun (others, b) => (a :: others, b)
termination_by text.length

/-- Reads items one after another up to the end of a text. -/
def readAll (item : List Char → Option (α × List Char)) (usesUp : UsesUp item)
    (text : List Char) : Option (List α) :=
  (readUntil (fun text => if text.isEmpty then some () else none) item usesUp text).map (·.1)

/-! ## Small readers -/

/-- What follows a given text, if it stands in front. -/
def after? : (front text : List Char) → Option (List Char)
  | [], text => some text
  | _ :: _, [] => none
  | c :: front, d :: text => if c = d then after? front text else none

/-- What stands before the first occurrence of a marker, and what follows the marker. -/
def cutAt (marker : List Char) : List Char → Option (List Char × List Char)
  | [] => if marker.isEmpty then some ([], []) else none
  | c :: text =>
      match after? marker (c :: text) with
      | some rest => some ([], rest)
      | none => (cutAt marker text).map fun (before, rest) => (c :: before, rest)

theorem length_le_of_dropWhile (p : Char → Bool) (text : List Char) :
    (text.dropWhile p).length ≤ text.length := (List.dropWhile_sublist p).length_le

theorem length_of_after? {front text rest : List Char} (h : after? front text = some rest) :
    front.length + rest.length = text.length := by
  fun_induction after? front text with
  | case1 => simp_all
  | case2 => simp at h
  | case3 c front text ih =>
      simp only [List.length_cons, Nat.add_right_comm, ih h]
  | case4 => simp at h

theorem length_le_of_after? {front text rest : List Char} (h : after? front text = some rest) :
    rest.length ≤ text.length := by
  have := length_of_after? h
  omega

theorem length_add_le_of_cutAt {marker text before rest : List Char}
    (h : cutAt marker text = some (before, rest)) :
    marker.length + rest.length ≤ text.length := by
  induction text generalizing before with
  | nil =>
      rw [cutAt] at h
      split at h
      · simp_all
      · simp at h
  | cons c text ih =>
      rw [cutAt] at h
      split at h
      · next hafter =>
          simp only [Option.some.injEq, Prod.mk.injEq] at h
          obtain ⟨_, rfl⟩ := h
          exact Nat.le_of_eq (length_of_after? hafter)
      · simp only [Option.map_eq_some_iff, Prod.mk.injEq] at h
        obtain ⟨⟨_, _⟩, hcut, _, rfl⟩ := h
        exact Nat.le_succ_of_le (ih hcut)

theorem length_le_of_cutAt {marker text before rest : List Char}
    (h : cutAt marker text = some (before, rest)) : rest.length ≤ text.length := by
  have := length_add_le_of_cutAt h
  omega

theorem length_le_of_readUntil {finish : List Char → Option (β × List Char)}
    {item : List Char → Option (α × List Char)} {usesUp : UsesUp item}
    (hfinish : ∀ {text rest b}, finish text = some (b, rest) → rest.length ≤ text.length)
    {text rest : List Char} {items : List α} {b : β}
    (h : readUntil finish item usesUp text = some (items, b, rest)) :
    rest.length ≤ text.length := by
  fun_induction readUntil finish item usesUp text generalizing items with
  | case1 text found hfound =>
      simp only [Option.some.injEq, Prod.mk.injEq] at h
      obtain ⟨_, rfl⟩ := h
      exact hfinish hfound
  | case2 => simp at h
  | case3 text hnone a left hitem hlt ih =>
      simp only [Option.map_eq_some_iff, Prod.mk.injEq] at h
      obtain ⟨⟨_, _⟩, hread, _, rfl⟩ := h
      exact Nat.le_trans (ih hread) (Nat.le_of_lt hlt)

end ClusterEvidence.Text
