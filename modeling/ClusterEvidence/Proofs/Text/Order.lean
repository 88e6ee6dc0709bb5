import ClusterEvidence.Keyed
import ClusterEvidence.Proofs.Text.Utf8

/-!
# The order of texts is that of their bytes

UTF-8 was made so that a greater character has greater bytes: where two encodings differ first, the
greater character has the greater byte. Neither encoding ends before that, so that the order does
not depend on what follows.

Pairs of texts are ordered by their first texts, and pairs with one first text by their second ones.

## Main results

* `encodeString_lt_iff` — of two texts the lesser has the lesser bytes.
* `pairLt_iff` — the same for pairs of texts.
-/

namespace ClusterEvidence.Text

/-- A greater character has greater bytes, whatever follows. -/
private theorem utf8EncodeChar_append_lt {c d : Char} (h : c < d) (rest rest' : Bytes) :
    String.utf8EncodeChar c ++ rest < String.utf8EncodeChar d ++ rest' := by
  have hlt : c.val.toNat < d.val.toNat := h
  have hvalid : d.val.toNat < 0xD800 ∨ 0xDFFF < d.val.toNat ∧ d.val.toNat < 0x110000 := d.valid
  rw [String.utf8EncodeChar, String.utf8EncodeChar]
  generalize c.val.toNat = m at hlt ⊢
  generalize d.val.toNat = n at hlt hvalid ⊢
  -- The digits to base 64 of the greatest numbers, one after another.
  have hm : m / 0x40000 = m / 0x1000 / 64 ∧ m / 0x1000 = m / 64 / 64 := by omega
  have hn : n / 0x40000 = n / 0x1000 / 64 ∧ n / 0x1000 = n / 64 / 64 := by omega
  -- One case for every length of the one and of the other that is not less.
  by_cases h1 : m ≤ 0x7f <;> by_cases h2 : m ≤ 0x7ff <;> by_cases h3 : m ≤ 0xffff <;>
    by_cases h4 : n ≤ 0x7f <;> by_cases h5 : n ≤ 0x7ff <;> by_cases h6 : n ≤ 0xffff <;> try omega
  all_goals
    simp only [h1, h2, h3, h4, h5, h6, if_true, if_false]
    simp (disch := omega) only [List.cons_append, List.nil_append, List.cons_lt_cons_iff,
      UInt8.lt_iff_toNat_lt, ← UInt8.toNat_inj, toNat_byte, Nat.mod_eq_of_lt]
    omega

/-- The lesser text has the lesser bytes. -/
private theorem encode_lt {a b : List Char} (h : a < b) : encode a < encode b := by
  induction a generalizing b with
  | nil =>
      cases b with
      | nil => exact absurd h (List.not_lt_nil _)
      | cons d b =>
          cases hbytes : String.utf8EncodeChar d with
          | nil => exact absurd hbytes String.utf8EncodeChar_ne_nil
          | cons first more =>
              rw [encode_nil, encode_cons, hbytes]
              exact List.nil_lt_cons _ _
  | cons c a ih =>
      cases b with
      | nil => exact absurd h (List.not_lt_nil _)
      | cons d b =>
          rw [encode_cons, encode_cons]
          rcases List.cons_lt_cons_iff.1 h with hlt | ⟨rfl, hlt⟩
          · exact utf8EncodeChar_append_lt hlt _ _
          · exact List.append_left_lt (ih hlt)

/-- Of two texts the lesser has the lesser bytes. -/
theorem encodeString_lt_iff {a b : String} : encodeString a < encodeString b ↔ a < b := by
  constructor
  · intro h
    by_cases hba : b < a
    · exact absurd (encode_lt (String.lt_iff.1 hba)) (List.lt_asymm h)
    · by_cases heq : a = b
      · exact absurd (heq ▸ h) (List.lt_irrefl _)
      · exact key_lt_of_not_lt (Ne.symm heq) hba
  · exact fun h => encode_lt (String.lt_iff.1 h)

/-- A text that is not greater has bytes that are not greater. -/
theorem encodeString_le_iff {a b : String} : encodeString a ≤ encodeString b ↔ a ≤ b := by
  rw [← String.not_lt, ← encodeString_lt_iff]
  rfl

/-! ## Pairs -/

/-- The order of pairs of texts, by the bytes of the first and then by those of the second. -/
def PairLt (a b : String × String) : Prop :=
  encodeString a.1 < encodeString b.1 ∨ a.1 = b.1 ∧ encodeString a.2 < encodeString b.2

theorem pairLt_iff {a b : String × String} :
    PairLt a b ↔ a.1 < b.1 ∨ a.1 = b.1 ∧ a.2 < b.2 := by
  rw [PairLt, encodeString_lt_iff, encodeString_lt_iff]

end ClusterEvidence.Text
