import ClusterEvidence.Proofs.Text.Utf8
import ClusterEvidence.Text.Blank

/-!
# Trimming

A text is its trimmed form with white space at both ends, and the trimmed form is the only one that
neither begins nor ends with white space.

## Main results

* `exists_trim` — what trimming takes away is white space.
* `trim_eq` — what it leaves is determined by that.
-/

namespace ClusterEvidence.Text

/-- White space only. -/
def Blank (text : List Char) : Prop := ∀ c ∈ text, isBlank c = true

theorem Blank.nil : Blank [] := by simp [Blank]

theorem Blank.append {a b : List Char} (ha : Blank a) (hb : Blank b) : Blank (a ++ b) := by
  intro c hc
  rcases List.mem_append.1 hc with hc | hc
  · exact ha c hc
  · exact hb c hc

private theorem Blank.reverse {text : List Char} (h : Blank text) :
    Blank text.reverse := fun c hc =>
  h c (List.mem_reverse.1 hc)

/-- A text does not begin with white space. -/
def Begins (text : List Char) : Prop := ∀ c ∈ text.head?, isBlank c = false

/-- A text does not begin with white space when it begins with another character. -/
theorem begins_of_head {text : List Char} {c : Char} (h : text.head? = some c)
    (hc : isBlank c = false) : Begins text := by
  intro d hd
  rw [h] at hd
  exact Option.mem_some_iff.1 hd ▸ hc

/-- A text does not end with white space. -/
def Closes (text : List Char) : Prop := ∀ c ∈ text.getLast?, isBlank c = false

private theorem begins_reverse_iff {text : List Char} : Begins text.reverse ↔ Closes text := by
  simp [Begins, Closes, List.head?_reverse]

theorem Closes.append {a b : List Char} (h : Closes b) (hne : b ≠ []) : Closes (a ++ b) := by
  intro c hc
  rw [Option.mem_def, List.getLast?_append, Option.or_eq_some_iff] at hc
  rcases hc with hc | ⟨hnone, _⟩
  · exact h c hc
  · exact absurd (List.getLast?_eq_none_iff.1 hnone) hne

/-! ## Letters and digits -/

/-- Letters and digits are visible ASCII characters. -/
private theorem toNat_of_isAlphanum {c : Char} (h : c.isAlphanum = true) :
    0x30 ≤ c.toNat ∧ c.toNat < 0x7B := by
  have hupper : c.isUpper = decide ('A'.val ≤ c.val ∧ c.val ≤ 'Z'.val) := rfl
  have hlower : c.isLower = (decide ('a'.val ≤ c.val) && decide (c.val ≤ 'z'.val)) := rfl
  have halphanum : c.isAlphanum = (c.isUpper || c.isLower || c.isDigit) := rfl
  simp only [halphanum, hupper, hlower, Char.isDigit, Bool.or_eq_true, Bool.and_eq_true,
    decide_eq_true_eq, ge_iff_le, UInt32.le_iff_toNat_le] at h
  rcases h with (h | h) | h
  · exact ⟨Nat.le_trans (by decide) h.1, Nat.lt_of_le_of_lt h.2 (by decide)⟩
  · exact ⟨Nat.le_trans (by decide) h.1, Nat.lt_of_le_of_lt h.2 (by decide)⟩
  · exact ⟨Nat.le_trans (by decide) h.1, Nat.lt_of_le_of_lt h.2 (by decide)⟩

/-- A class of visible ASCII characters. -/
def Visible (p : Char → Bool) : Prop := ∀ c, p c = true → 0x20 < c.toNat ∧ c.toNat < 0x7F

/-- A class of letters, digits and some marks. -/
theorem visible_of_marks {p : Char → Bool} (marks : List Char)
    (h : ∀ c, p c = true → c.isAlphanum = true ∨ c ∈ marks)
    (hmarks : ∀ c ∈ marks, 0x20 < c.toNat ∧ c.toNat < 0x7F) : Visible p := by
  intro c hc
  rcases h c hc with hname | hmark
  · have hrange := toNat_of_isAlphanum hname
    omega
  · exact hmarks c hmark

/-- Visible characters are no white space. -/
theorem Visible.isBlank {p : Char → Bool} (hp : Visible p) {c : Char} (h : p c = true) :
    isBlank c = false := by
  have hvisible := hp c h
  rw [← Bool.not_eq_true]
  intro hblank
  simp only [Text.isBlank, Bool.or_eq_true, Bool.and_eq_true, decide_eq_true_eq,
    beq_iff_eq] at hblank
  omega

theorem Visible.not_of_isBlank {p : Char → Bool} (hp : Visible p) {c : Char}
    (h : Text.isBlank c = true) : p c = false := by
  rw [← Bool.not_eq_true]
  intro hvisible
  rw [hp.isBlank hvisible] at h
  cases h

/-! ## At the start -/

theorem trimStart_eq {front text : List Char} (hfront : Blank front) (htext : Begins text) :
    trimStart (front ++ text) = text := by
  rw [trimStart_append_of_blank hfront]
  cases text with
  | nil => rfl
  | cons c text => exact trimStart_eq_self (htext c rfl)

theorem exists_trimStart (text : List Char) :
    ∃ front, text = front ++ trimStart text ∧ Blank front ∧ Begins (trimStart text) := by
  refine ⟨text.takeWhile isBlank, List.takeWhile_append_dropWhile.symm,
    List.all_eq_true.1 List.all_takeWhile, fun c hc => ?_⟩
  have hnot := List.head?_dropWhile_not isBlank text
  rw [trimStart, Option.mem_def] at hc
  rw [hc] at hnot
  exact hnot

/-- Trimming at the start takes away the bytes of the leading run. -/
theorem byteLength_sub_trimStart (text : List Char) :
    byteLength text - byteLength (trimStart text) = byteLength (text.takeWhile isBlank) := by
  have hlength := byteLength_append (text.takeWhile isBlank) (trimStart text)
  rw [trimStart, List.takeWhile_append_dropWhile] at hlength
  rw [trimStart, hlength]
  omega

/-! ## At the end -/

theorem trimEnd_eq {text tail : List Char} (htext : Closes text) (htail : Blank tail) :
    trimEnd (text ++ tail) = text := by
  rw [trimEnd, List.reverse_append,
    trimStart_eq htail.reverse (begins_reverse_iff.2 htext), List.reverse_reverse]

theorem exists_trimEnd (text : List Char) :
    ∃ tail, text = trimEnd text ++ tail ∧ Blank tail ∧ Closes (trimEnd text) := by
  obtain ⟨front, htext, hfront, hbegins⟩ := exists_trimStart text.reverse
  refine ⟨front.reverse, ?_, hfront.reverse, ?_⟩
  · rw [trimEnd, ← List.reverse_append, ← htext, List.reverse_reverse]
  · rw [trimEnd, ← begins_reverse_iff, List.reverse_reverse]
    exact hbegins

/-! ## At both ends -/

/-- A text that does not begin with white space keeps its beginning. -/
private theorem begins_trimEnd {text : List Char} (h : Begins text) : Begins (trimEnd text) := by
  obtain ⟨tail, htext, _⟩ := exists_trimEnd text
  intro c hc
  refine h c ?_
  rw [htext, List.head?_append, hc]
  rfl

/-- What trimming takes away is white space. -/
theorem exists_trim (text : List Char) :
    ∃ front tail, text = front ++ trim text ++ tail ∧ Blank front ∧ Blank tail ∧
      Begins (trim text) ∧ Closes (trim text) := by
  obtain ⟨front, htext, hfront, hbegins⟩ := exists_trimStart text
  obtain ⟨tail, hrest, htail, hcloses⟩ := exists_trimEnd (trimStart text)
  refine ⟨front, tail, ?_, hfront, htail, begins_trimEnd hbegins, hcloses⟩
  rw [trim, List.append_assoc, ← hrest, ← htext]

/-- What trimming leaves is determined by what it takes away. -/
theorem trim_eq {front text tail : List Char} (hfront : Blank front) (htail : Blank tail)
    (hbegins : Begins text) (hcloses : Closes text) : trim (front ++ text ++ tail) = text := by
  rw [trim, List.append_assoc]
  by_cases hnil : text = []
  · subst hnil
    rw [List.nil_append, ← List.append_nil (front ++ tail),
      trimStart_eq (hfront.append htail) (by simp [Begins])]
    rfl
  · have hall : Begins (text ++ tail) := by
      cases text with
      | nil => exact absurd rfl hnil
      | cons c text => exact hbegins
    rw [trimStart_eq hfront hall, trimEnd_eq hcloses htail]

/-! ## In bytes -/

/-- No byte of a white space character is a visible ASCII character. -/
theorem not_visible_of_mem_encode {text : List Char} (h : Blank text) {b : UInt8}
    (hb : b ∈ encode text) : b.toNat ≤ 0x20 ∨ 0x7F ≤ b.toNat := by
  rw [encode, List.mem_flatMap] at hb
  obtain ⟨c, hc, hb⟩ := hb
  by_cases hascii : c.toNat < 0x80
  · rw [utf8EncodeChar_ascii hascii, List.mem_singleton] at hb
    have hblank := h c hc
    rw [hb, toNat_byte (by omega)]
    simp only [isBlank, Bool.or_eq_true, Bool.and_eq_true, decide_eq_true_eq, beq_iff_eq] at hblank
    omega
  · have hge := ge_of_mem_utf8EncodeChar (Nat.not_lt.1 hascii) hb
    omega

end ClusterEvidence.Text
