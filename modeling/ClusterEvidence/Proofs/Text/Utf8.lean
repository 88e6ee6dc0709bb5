import ClusterEvidence.Text.Bytes

/-!
# UTF-8 reads back what it writes

Every character is the front of its own encoding, whatever bytes follow. Bytes below 0x80 stand for
themselves and never occur inside the encoding of another character, so that a reader of bytes that
looks for ASCII characters only sees the text as a list of characters.

## Main results

* `front_utf8EncodeChar` — a character is read from the front of its encoding.
* `decode?_encode`, `decodeString?_encode` — a text is read back from its encoding.
* `encode_ascii`, `ge_of_mem_utf8EncodeChar` — the bytes below 0x80 are the ASCII characters.
-/

namespace ClusterEvidence.Text

/-! ## Encoding piece by piece -/

@[simp] theorem encode_nil : encode [] = [] := rfl

theorem encode_cons (c : Char) (text : List Char) :
    encode (c :: text) = String.utf8EncodeChar c ++ encode text := rfl

theorem encode_append (a b : List Char) : encode (a ++ b) = encode a ++ encode b :=
  List.flatMap_append

theorem toNat_byte {n : Nat} (h : n < 256) : (UInt8.ofNat n).toNat = n := by
  simp [UInt8.toNat_ofNat', Nat.mod_eq_of_lt h]

/-- An ASCII character is a byte. -/
theorem utf8EncodeChar_ascii {c : Char} (h : c.toNat < 0x80) :
    String.utf8EncodeChar c = [UInt8.ofNat c.toNat] := by
  have hle : c.val.toNat ≤ 0x7f := Nat.le_of_lt_succ h
  rw [String.utf8EncodeChar, if_pos hle]
  rfl

theorem encode_ascii {c : Char} (h : c.toNat < 0x80) (text : List Char) :
    encode (c :: text) = UInt8.ofNat c.toNat :: encode text := by
  rw [encode_cons, utf8EncodeChar_ascii h]
  rfl

/-- The bytes of a character beyond ASCII are all at least 0x80. -/
theorem ge_of_mem_utf8EncodeChar {c : Char} (h : 0x80 ≤ c.toNat) {b : UInt8}
    (hb : b ∈ String.utf8EncodeChar c) : 0x80 ≤ b.toNat := by
  have hvalid : c.toNat < 0xD800 ∨ 0xDFFF < c.toNat ∧ c.toNat < 0x110000 := c.valid
  have hlow : ¬ c.val.toNat ≤ 0x7f := fun hle => absurd h (Nat.not_le.2 (Nat.lt_succ_of_le hle))
  have hval : c.val.toNat = c.toNat := rfl
  rw [String.utf8EncodeChar, if_neg hlow, hval] at hb
  generalize c.toNat = n at hvalid hb
  split at hb
  · simp only [List.mem_cons, List.not_mem_nil, or_false] at hb
    rcases hb with rfl | rfl <;> rw [toNat_byte (by omega)] <;> omega
  · split at hb
    · simp only [List.mem_cons, List.not_mem_nil, or_false] at hb
      rcases hb with rfl | rfl | rfl <;> rw [toNat_byte (by omega)] <;> omega
    · simp only [List.mem_cons, List.not_mem_nil, or_false] at hb
      rcases hb with rfl | rfl | rfl | rfl <;> rw [toNat_byte (by omega)] <;> omega

/-- A character is one ASCII byte, or several bytes of which none is ASCII. -/
theorem exists_utf8EncodeChar (c : Char) :
    ∃ b more, String.utf8EncodeChar c = b :: more ∧ (∀ x ∈ more, 0x80 ≤ x.toNat) ∧
      (c.toNat < 0x80 ∨ b.toNat < 0x80 → c.toNat = b.toNat ∧ more = []) := by
  by_cases h : c.toNat < 0x80
  · refine ⟨_, [], utf8EncodeChar_ascii h, by simp, fun _ => ⟨?_, rfl⟩⟩
    exact (toNat_byte (by omega)).symm
  · have hge := fun b hb => ge_of_mem_utf8EncodeChar (c := c) (Nat.not_lt.1 h) (b := b) hb
    cases hbytes : String.utf8EncodeChar c with
    | nil => exact absurd hbytes (String.utf8EncodeChar_ne_nil)
    | cons b more =>
        rw [hbytes] at hge
        have hb := hge b List.mem_cons_self
        exact ⟨b, more, rfl, fun x hx => hge x (List.mem_cons_of_mem _ hx), fun hlt => by omega⟩

/-- An ASCII byte of an encoding is a character of the text. -/
theorem exists_of_encode_eq_append {text : List Char} {front rest : Bytes} {b : UInt8}
    (hb : b.toNat < 0x80) (h : encode text = front ++ b :: rest) :
    ∃ before c after, text = before ++ c :: after ∧ c.toNat = b.toNat ∧
      encode before = front ∧ encode after = rest := by
  induction text generalizing front with
  | nil => simp at h
  | cons c text ih =>
      obtain ⟨d, more, hc, hmore, hself⟩ := exists_utf8EncodeChar c
      have hinside : ∀ inner, front = String.utf8EncodeChar c ++ inner →
          encode text = inner ++ b :: rest →
          ∃ before e after, c :: text = before ++ e :: after ∧ e.toNat = b.toNat ∧
            encode before = front ∧ encode after = rest := by
        intro inner hfront hrest
        obtain ⟨before, e, after, htext, he, hbefore, hafter⟩ := ih hrest
        refine ⟨c :: before, e, after, by rw [htext]; rfl, he, ?_, hafter⟩
        rw [encode_cons, hbefore, hfront]
      rw [encode_cons] at h
      rcases List.append_eq_append_iff.1 h with ⟨inner, hfront, hrest⟩ | ⟨inner, hfront, hrest⟩
      · exact hinside inner hfront hrest
      · cases inner with
        | nil =>
            rw [List.append_nil] at hfront
            exact hinside [] (by rw [hfront, List.append_nil]) hrest.symm
        | cons x inner =>
            rw [List.cons_append, List.cons.injEq] at hrest
            obtain ⟨rfl, hrest⟩ := hrest
            -- The ASCII byte is one of the character, so it is the only one.
            have hascii : c.toNat = b.toNat ∧ String.utf8EncodeChar c = [b] := by
              have hmem : b ∈ d :: more := by
                rw [← hc, hfront]
                simp
              rcases List.mem_cons.1 hmem with rfl | hmem
              · obtain ⟨hnat, rfl⟩ := hself (.inr hb)
                exact ⟨hnat, hc⟩
              · exact absurd (hmore b hmem) (Nat.not_le.2 hb)
            rw [hascii.2] at hfront
            have hnil : front = [] ∧ inner = [] := by
              have hlength := congrArg List.length hfront
              simp only [List.length_append, List.length_cons, List.length_nil] at hlength
              exact ⟨List.length_eq_zero_iff.1 (by omega), List.length_eq_zero_iff.1 (by omega)⟩
            rw [hnil.2, List.nil_append] at hrest
            exact ⟨[], c, text, rfl, hascii.1, hnil.1.symm, hrest.symm⟩

/-! ## The front of a byte list -/

theorem isContinuation_iff {b : UInt8} :
    isContinuation b = true ↔ 0x80 ≤ b.toNat ∧ b.toNat ≤ 0xBF := by
  simp [isContinuation, UInt8.le_iff_toNat_le]

private theorem isSecondOfThree_iff {lead b : UInt8} :
    isSecondOfThree lead b = true ↔
      (0x80 ≤ b.toNat ∧ b.toNat ≤ 0xBF) ∧ (lead.toNat = 0xE0 → 0xA0 ≤ b.toNat) ∧
        (lead.toNat = 0xED → b.toNat ≤ 0x9F) := by
  simp only [isSecondOfThree, beq_iff_eq, ← UInt8.toNat_inj, UInt8.reduceToNat]
  split
  · simp [UInt8.le_iff_toNat_le]
    omega
  · split
    · simp [UInt8.le_iff_toNat_le]
      omega
    · simp [isContinuation_iff]
      omega

private theorem isSecondOfFour_iff {lead b : UInt8} :
    isSecondOfFour lead b = true ↔
      (0x80 ≤ b.toNat ∧ b.toNat ≤ 0xBF) ∧ (lead.toNat = 0xF0 → 0x90 ≤ b.toNat) ∧
        (lead.toNat = 0xF4 → b.toNat ≤ 0x8F) := by
  simp only [isSecondOfFour, beq_iff_eq, ← UInt8.toNat_inj, UInt8.reduceToNat]
  split
  · simp [UInt8.le_iff_toNat_le]
    omega
  · split
    · simp [UInt8.le_iff_toNat_le]
      omega
    · simp [isContinuation_iff]
      omega

private theorem front_two {a b : UInt8} (ha : 0xC2 ≤ a.toNat ∧ a.toNat ≤ 0xDF)
    (hb : isContinuation b = true) (rest : Bytes) :
    front (a :: b :: rest) =
      .character (Char.ofNat (a.toNat % 32 * 64 + continuationBits b)) rest := by
  have hlow : ¬ a < 0x80 := by
    simp [UInt8.lt_iff_toNat_lt]
    omega
  have hlead : (0xC2 ≤ a && a ≤ 0xDF) = true := by simpa [UInt8.le_iff_toNat_le] using ha
  unfold front
  simp only [hlow, hlead, hb, if_true, if_false]

private theorem front_three {a b c : UInt8} (ha : 0xE0 ≤ a.toNat ∧ a.toNat ≤ 0xEF)
    (hb : isSecondOfThree a b = true) (hc : isContinuation c = true) (rest : Bytes) :
    front (a :: b :: c :: rest) =
      .character (Char.ofNat
        ((a.toNat % 16 * 64 + continuationBits b) * 64 + continuationBits c)) rest := by
  have hlow : ¬ a < 0x80 := by
    simp [UInt8.lt_iff_toNat_lt]
    omega
  have htwo : ¬ (0xC2 ≤ a && a ≤ 0xDF) = true := by
    simp [UInt8.le_iff_toNat_le]
    omega
  have hlead : (0xE0 ≤ a && a ≤ 0xEF) = true := by simpa [UInt8.le_iff_toNat_le] using ha
  unfold front
  simp only [hlow, htwo, hlead, hb, hc, Bool.false_eq_true, if_true, if_false]

private theorem front_four {a b c d : UInt8} (ha : 0xF0 ≤ a.toNat ∧ a.toNat ≤ 0xF4)
    (hb : isSecondOfFour a b = true) (hc : isContinuation c = true)
    (hd : isContinuation d = true) (rest : Bytes) :
    front (a :: b :: c :: d :: rest) =
      .character (Char.ofNat
        (((a.toNat % 8 * 64 + continuationBits b) * 64 + continuationBits c) * 64 +
          continuationBits d)) rest := by
  have hlow : ¬ a < 0x80 := by
    simp [UInt8.lt_iff_toNat_lt]
    omega
  have htwo : ¬ (0xC2 ≤ a && a ≤ 0xDF) = true := by
    simp [UInt8.le_iff_toNat_le]
    omega
  have hthree : ¬ (0xE0 ≤ a && a ≤ 0xEF) = true := by
    simp [UInt8.le_iff_toNat_le]
    omega
  have hlead : (0xF0 ≤ a && a ≤ 0xF4) = true := by simpa [UInt8.le_iff_toNat_le] using ha
  unfold front
  simp only [hlow, htwo, hthree, hlead, hb, hc, hd, Bool.false_eq_true, if_true, if_false]

/-- A character is read from the front of its encoding. -/
theorem front_utf8EncodeChar (c : Char) (rest : Bytes) :
    front (String.utf8EncodeChar c ++ rest) = .character c rest := by
  have hvalid : c.toNat < 0xD800 ∨ 0xDFFF < c.toNat ∧ c.toNat < 0x110000 := c.valid
  have hself : Char.ofNat c.toNat = c := Char.ofNat_toNat c
  have hval : c.val.toNat = c.toNat := rfl
  rw [String.utf8EncodeChar, hval]
  generalize c.toNat = n at hvalid hself ⊢
  by_cases h1 : n ≤ 0x7f
  · have hb : (UInt8.ofNat n).toNat = n := toNat_byte (by omega)
    have hlow : UInt8.ofNat n < 0x80 := by
      rw [UInt8.lt_iff_toNat_lt, hb]
      exact Nat.lt_succ_of_le h1
    simp [h1, front, hlow, hb, hself]
  · have hlast : (UInt8.ofNat (n % 0x40 + 0x80)).toNat = n % 0x40 + 0x80 := toNat_byte (by omega)
    by_cases h2 : n ≤ 0x7ff
    · have hlead : (UInt8.ofNat (n / 64 % 0x20 + 0xc0)).toNat = n / 64 % 0x20 + 0xc0 :=
        toNat_byte (by omega)
      rw [if_neg h1, if_pos h2, List.cons_append, List.cons_append, List.nil_append,
        front_two (by omega) (isContinuation_iff.2 (by omega)), continuationBits, hlead, hlast,
        ← hself]
      congr 2
      omega
    · have hmid : (UInt8.ofNat (n / 64 % 0x40 + 0x80)).toNat = n / 64 % 0x40 + 0x80 :=
        toNat_byte (by omega)
      by_cases h3 : n ≤ 0xffff
      · have hlead : (UInt8.ofNat (n / 4096 % 0x10 + 0xe0)).toNat = n / 4096 % 0x10 + 0xe0 :=
          toNat_byte (by omega)
        rw [if_neg h1, if_neg h2, if_pos h3, List.cons_append, List.cons_append,
          List.cons_append, List.nil_append,
          front_three (by omega) (isSecondOfThree_iff.2 (by omega))
            (isContinuation_iff.2 (by omega)),
          continuationBits, continuationBits, hlead, hmid, hlast, ← hself]
        congr 2
        omega
      · have hlead : (UInt8.ofNat (n / 262144 % 0x08 + 0xf0)).toNat = n / 262144 % 0x08 + 0xf0 :=
          toNat_byte (by omega)
        have hsecond : (UInt8.ofNat (n / 4096 % 0x40 + 0x80)).toNat = n / 4096 % 0x40 + 0x80 :=
          toNat_byte (by omega)
        rw [if_neg h1, if_neg h2, if_neg h3, List.cons_append, List.cons_append,
          List.cons_append, List.cons_append, List.nil_append,
          front_four (by omega) (isSecondOfFour_iff.2 (by omega))
            (isContinuation_iff.2 (by omega)) (isContinuation_iff.2 (by omega)),
          continuationBits, continuationBits, continuationBits, hlead, hsecond, hmid, hlast,
          ← hself]
        congr 2
        omega

/-! ## The round trip -/

/-- A text is read back from its encoding. -/
theorem decode?_encode (text : List Char) : decode? (encode text) = some text := by
  induction text with
  | nil =>
      rw [decode?]
      rfl
  | cons c text ih =>
      have hfront := front_utf8EncodeChar c (encode text)
      rw [← encode_cons] at hfront
      rw [decode?]
      split
      · next h => rw [hfront] at h; cases h
      · next h =>
          rw [hfront] at h
          cases h
          rw [ih]
          rfl
      · next h => rw [hfront] at h; cases h

/-- A string is read back from its encoding. -/
theorem decodeString?_encode (s : String) : decodeString? (encode s.toList) = some s := by
  simp [decodeString?, decode?_encode]

end ClusterEvidence.Text
