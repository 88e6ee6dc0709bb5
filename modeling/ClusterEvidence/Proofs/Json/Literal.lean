import ClusterEvidence.Json.Printer
import ClusterEvidence.Proofs.Json.Token
import ClusterEvidence.Proofs.Json.Within
import ClusterEvidence.Proofs.Text.Utf8

/-!
# Printed strings and integers

A string literal is scanned character by character: each is printed as bytes that stand for its
UTF-8 form, whatever follows (`standsFor_escapeChar`). The digits of an integer are taken by
the reader one by one, and the number it has after each of them is the one that the digits so far
write (`absorb_digits`).

## Main results

* `tokenizes_quote` — a printed string is the token of that string.
* `tokenizes_integer` — a printed integer of sixty-four bits is the token of that integer.
-/

namespace ClusterEvidence.Json.Token

open Text (encode)

/-- A token that takes a whole text is all of it. -/
theorem Tokenizes.of_scan {bytes : Bytes} {token : Token} (h : scan bytes = some (token, [])) :
    Tokenizes bytes [token] := by
  obtain ⟨used, rfl, hchunk, hscan⟩ := exists_used_of_scan h
  exact .token hchunk hscan .nil

/-! ## Strings -/

/-- Bytes that stand for themselves. -/
private theorem scanString_bytes {used : Bytes}
    (h : ∀ b ∈ used, b ≠ 0x22 ∧ b ≠ 0x5C ∧ ¬ b < 0x20) (rest : Bytes) :
    scanString (used ++ rest) = (scanString rest).map fun p => (used.map .byte ++ p.1, p.2) := by
  induction used with
  | nil => simp
  | cons b used ih =>
      obtain ⟨hquote, hbackslash, hvisible⟩ := h b List.mem_cons_self
      have hrest := ih fun c hc => h c (List.mem_cons_of_mem _ hc)
      rw [List.cons_append, scanString_byte hquote hbackslash hvisible, hrest, Option.map_map]
      rfl

private theorem bytesOfUnits?_bytes (used : Bytes) (units : List Unit) :
    bytesOfUnits? (used.map .byte ++ units) = (bytesOfUnits? units).map (used ++ ·) := by
  induction used with
  | nil => simp
  | cons b used ih =>
      rw [List.map_cons, List.cons_append, bytesOfUnits?, ih, Option.map_map]
      rfl

/-- A unit below the surrogates is a character. -/
private theorem bytesOfUnits?_utf16 {unit : Nat} (h : unit < 0xD800) (units : List Unit) :
    bytesOfUnits? (.utf16 unit :: units) =
      (bytesOfUnits? units).map (String.utf8EncodeChar (Char.ofNat unit) ++ ·) := by
  have hlow : ¬ 0xD800 ≤ unit := by omega
  have hhigh : ¬ 0xDC00 ≤ unit := by omega
  cases units with
  | nil => simp [bytesOfUnits?, hlow]
  | cons next units =>
      cases next with
      | byte b => simp [bytesOfUnits?, hlow]
      | utf16 low => rw [bytesOfUnits?]; simp [hlow, hhigh]

/-- The two digits that a character below U+0020 is escaped with. -/
private theorem hexUnit?_control : ∀ n < 32,
    hexUnit? 0x30 0x30 (UInt8.ofNat (hexDigit (n / 16)).toNat)
      (UInt8.ofNat (hexDigit (n % 16)).toNat) = some n ∧
    (hexDigit (n / 16)).toNat < 0x80 ∧ (hexDigit (n % 16)).toNat < 0x80 := by
  decide

/-- A text inside a string literal is scanned, whatever follows, as units of this character. -/
def StandsFor (text : List Char) (c : Char) : Prop :=
  ∃ units, (∀ rest, scanString (encode text ++ rest) =
      (scanString rest).map fun p => (units ++ p.1, p.2)) ∧
    ∀ more, bytesOfUnits? (units ++ more) =
      (bytesOfUnits? more).map (String.utf8EncodeChar c ++ ·)

private theorem standsFor_letter {letter c : Char} (hletter : letter.toNat < 0x80)
    (hc : c.toNat < 0x80) (hu : UInt8.ofNat letter.toNat ≠ 0x75)
    (hescaped : escaped? (UInt8.ofNat letter.toNat) = some (UInt8.ofNat c.toNat)) :
    StandsFor ['\\', letter] c := by
  have hbytes : encode ['\\', letter] = [0x5C, UInt8.ofNat letter.toNat] := by
    rw [Text.encode_ascii (by decide), Text.encode_ascii hletter]
    rfl
  refine ⟨[.byte (UInt8.ofNat c.toNat)], fun rest => ?_, fun more => ?_⟩
  · have hscan := scanString_escape hu rest
    rw [hescaped] at hscan
    rw [hbytes]
    exact hscan
  · rw [Text.utf8EncodeChar_ascii hc]
    exact bytesOfUnits?_bytes [UInt8.ofNat c.toNat] more

private theorem standsFor_control {c : Char} (h : c.toNat < 32) :
    StandsFor ['\\', 'u', '0', '0', hexDigit (c.toNat / 16), hexDigit (c.toNat % 16)] c := by
  obtain ⟨hunit, hfirst, hsecond⟩ := hexUnit?_control c.toNat h
  have hbytes :
      encode ['\\', 'u', '0', '0', hexDigit (c.toNat / 16), hexDigit (c.toNat % 16)] =
        [0x5C, 0x75, 0x30, 0x30, UInt8.ofNat (hexDigit (c.toNat / 16)).toNat,
          UInt8.ofNat (hexDigit (c.toNat % 16)).toNat] := by
    rw [Text.encode_ascii (by decide), Text.encode_ascii (by decide),
      Text.encode_ascii (by decide), Text.encode_ascii (by decide), Text.encode_ascii hfirst,
      Text.encode_ascii hsecond]
    rfl
  refine ⟨[.utf16 c.toNat], fun rest => ?_, fun more => ?_⟩
  · rw [hbytes]
    simp only [List.cons_append, List.nil_append, scanString, hunit, Option.bind_eq_bind,
      Option.bind_some]
    cases scanString rest <;> rfl
  · have hmore := bytesOfUnits?_utf16 (Nat.lt_trans h (by decide)) more
    rw [Char.ofNat_toNat] at hmore
    exact hmore

private theorem standsFor_self {c : Char} (hquote : c ≠ '"') (hbackslash : c ≠ '\\')
    (hvisible : ¬ c.toNat < 0x20) : StandsFor [c] c := by
  have hbytes : encode [c] = String.utf8EncodeChar c := List.append_nil _
  have hplain : ∀ b ∈ String.utf8EncodeChar c, b ≠ 0x22 ∧ b ≠ 0x5C ∧ ¬ b < 0x20 := by
    obtain ⟨first, more, hc, hmore, hascii⟩ := Text.exists_utf8EncodeChar c
    rw [hc]
    intro b hb
    rcases List.mem_cons.1 hb with rfl | hb
    · by_cases hlow : b.toNat < 0x80
      · have hsame := (hascii (.inr hlow)).1
        refine ⟨?_, ?_, ?_⟩
        · rintro rfl
          exact hquote (Char.toNat_inj.1 hsame)
        · rintro rfl
          exact hbackslash (Char.toNat_inj.1 hsame)
        · rw [UInt8.lt_iff_toNat_lt, ← hsame]
          exact hvisible
      · refine ⟨?_, ?_, ?_⟩
        · rintro rfl
          exact hlow (by decide)
        · rintro rfl
          exact hlow (by decide)
        · rw [UInt8.lt_iff_toNat_lt]
          exact fun hlt => hlow (Nat.lt_trans hlt (by decide))
    · have hge := hmore b hb
      refine ⟨?_, ?_, ?_⟩
      · rintro rfl
        exact absurd hge (by decide)
      · rintro rfl
        exact absurd hge (by decide)
      · rw [UInt8.lt_iff_toNat_lt]
        exact Nat.not_lt.2 (Nat.le_trans (by decide) hge)
  refine ⟨(String.utf8EncodeChar c).map .byte, fun rest => ?_, fun more => ?_⟩
  · rw [hbytes]
    exact scanString_bytes hplain rest
  · exact bytesOfUnits?_bytes _ more

/-- A character is printed as what stands for it. -/
theorem standsFor_escapeChar (c : Char) : StandsFor (escapeChar c) c := by
  by_cases hquote : c = '"'
  · subst hquote
    exact standsFor_letter (by decide) (by decide) (by decide) rfl
  by_cases hbackslash : c = '\\'
  · subst hbackslash
    exact standsFor_letter (by decide) (by decide) (by decide) rfl
  by_cases hline : c = '\n'
  · subst hline
    exact standsFor_letter (by decide) (by decide) (by decide) rfl
  by_cases hreturn : c = '\r'
  · subst hreturn
    exact standsFor_letter (by decide) (by decide) (by decide) rfl
  by_cases htab : c = '\t'
  · subst htab
    exact standsFor_letter (by decide) (by decide) (by decide) rfl
  by_cases hback : c = '\x08'
  · subst hback
    exact standsFor_letter (by decide) (by decide) (by decide) rfl
  by_cases hfeed : c = '\x0c'
  · subst hfeed
    exact standsFor_letter (by decide) (by decide) (by decide) rfl
  by_cases hcontrol : c.toNat < 0x20
  · have hescape : escapeChar c =
        ['\\', 'u', '0', '0', hexDigit (c.toNat / 16), hexDigit (c.toNat % 16)] := by
      simp [escapeChar, hquote, hbackslash, hline, hreturn, htab, hback, hfeed, hcontrol]
    rw [hescape]
    exact standsFor_control hcontrol
  · have hescape : escapeChar c = [c] := by
      simp [escapeChar, hquote, hbackslash, hline, hreturn, htab, hback, hfeed, hcontrol]
    rw [hescape]
    exact standsFor_self hquote hbackslash hcontrol

/-- The characters of a string as they are printed, up to the closing quote. -/
private theorem exists_units_of_escapes (text : List Char) :
    ∃ units, (∀ rest, scanString (encode (text.flatMap escapeChar) ++ 0x22 :: rest) =
        some (units, rest)) ∧ bytesOfUnits? units = some (encode text) := by
  induction text with
  | nil => exact ⟨[], fun rest => rfl, rfl⟩
  | cons c text ih =>
      obtain ⟨units, hscan, hbytes⟩ := ih
      obtain ⟨first, hfirst, hmore⟩ := standsFor_escapeChar c
      refine ⟨first ++ units, fun rest => ?_, ?_⟩
      · rw [List.flatMap_cons, Text.encode_append, List.append_assoc, hfirst, hscan]
        rfl
      · rw [hmore, hbytes, Text.encode_cons]
        rfl

/-- A printed string is the token of that string. -/
theorem tokenizes_quote (s : String) : Tokenizes (encode (quote s)) [.string (some s)] := by
  obtain ⟨units, hscan, hbytes⟩ := exists_units_of_escapes s.toList
  have htext : textOfUnits? units = some s := by
    rw [textOfUnits?, hbytes, Option.bind_some, Text.decodeString?_encode]
  have hquote : encode (quote s) = 0x22 :: (encode (s.toList.flatMap escapeChar) ++ [0x22]) := by
    rw [quote, List.cons_append, Text.encode_ascii (by decide), Text.encode_append]
    rfl
  refine .of_scan ?_
  rw [hquote, scan, hscan]
  simp only [Option.map_some, htext]

/-! ## Integers -/

/-- The digits of a number as bytes. -/
def digits (n : Nat) : Bytes := encode (Nat.toDigits 10 n)

/-- The digit of a number below ten. -/
def digit (n : Nat) : UInt8 := UInt8.ofNat (Nat.digitChar n).toNat

theorem digit_spec : ∀ n < 10, isDigit (digit n) = true ∧ (digit n).toNat - 0x30 = n ∧
    (Nat.digitChar n).toNat < 0x80 ∧ (digit n = 0x30 → n = 0) := by
  decide

/-- The last digit stands behind those of a tenth of the number. -/
theorem digits_eq (n : Nat) :
    digits n = (if n < 10 then [] else digits (n / 10)) ++ [digit (n % 10)] := by
  have hlast : encode [Nat.digitChar (n % 10)] = [digit (n % 10)] :=
    Text.encode_ascii (digit_spec (n % 10) (Nat.mod_lt _ (by decide))).2.2.1 []
  by_cases hlt : n < 10
  · rw [if_pos hlt, List.nil_append, ← hlast, digits, Nat.toDigits_of_lt_base hlt,
      Nat.mod_eq_of_lt hlt]
  · rw [if_neg hlt, ← hlast, digits, Nat.toDigits_of_base_le (by decide) (by omega),
      Text.encode_append]
    rfl

private theorem isDigit_of_mem_digits (n : Nat) : ∀ b ∈ digits n, isDigit b = true := by
  induction n using Nat.strongRecOn with
  | ind n ih =>
      intro b hb
      rw [digits_eq, List.mem_append] at hb
      rcases hb with hb | hb
      · by_cases hlt : n < 10
        · simp [hlt] at hb
        · rw [if_neg hlt] at hb
          exact ih (n / 10) (by omega) b hb
      · rw [List.mem_singleton.1 hb]
        exact (digit_spec (n % 10) (Nat.mod_lt _ (by decide))).1

private theorem digits_ne_nil (n : Nat) : digits n ≠ [] := by
  rw [digits_eq]
  simp

/-- Only zero has a zero in front. -/
private theorem head_digits (n : Nat) : (digits n).head? = some 0x30 → n = 0 := by
  induction n using Nat.strongRecOn with
  | ind n ih =>
      intro hhead
      rw [digits_eq] at hhead
      by_cases hlt : n < 10
      · rw [if_pos hlt, List.nil_append, List.head?_cons, Option.some.injEq] at hhead
        have hzero := (digit_spec (n % 10) (Nat.mod_lt _ (by decide))).2.2.2 hhead
        omega
      · rw [if_neg hlt, List.head?_append] at hhead
        cases hfront : (digits (n / 10)).head? with
        | none =>
            rw [List.head?_eq_none_iff, digits_eq] at hfront
            simp at hfront
        | some b =>
            rw [hfront, Option.some_or, Option.some.injEq] at hhead
            subst hhead
            have hzero := ih (n / 10) (by omega) hfront
            omega

/-- When all digits of a front were taken the others are taken with its number. -/
private theorem absorb_append {start value : Nat} {front : Bytes}
    (h : absorb start front = (value, front.length)) (rest : Bytes) :
    absorb start (front ++ rest) =
      ((absorb value rest).1, front.length + (absorb value rest).2) := by
  induction front generalizing start with
  | nil =>
      cases h
      simp
  | cons b front ih =>
      rw [absorb] at h
      simp only at h
      split at h
      · simp at h
      · next hfits =>
          simp only [List.length_cons, Prod.mk.injEq, Nat.add_right_cancel_iff] at h
          have hrest := ih (Prod.ext h.1 h.2)
          rw [List.cons_append, absorb]
          simp only [hfits, if_false, hrest, List.length_cons, Prod.mk.injEq, true_and]
          omega

/-- One more digit is taken when the number with it fits in sixty-four bits. -/
private theorem absorb_digit (start : Nat) {d : Nat} (hd : d < 10)
    (h : start * 10 + d < UInt64.size) :
    absorb start [digit d] = (start * 10 + d, 1) := by
  have hvalue := (digit_spec d hd).2.1
  simp [absorb, hvalue, Nat.not_le.2 h]

/-- The reader takes all digits of a number of sixty-four bits, and has the number then. -/
theorem absorb_digits {n : Nat} (h : n < UInt64.size) :
    absorb 0 (digits n) = (n, (digits n).length) := by
  induction n using Nat.strongRecOn with
  | ind n ih =>
      have hmod : n % 10 < 10 := Nat.mod_lt _ (by decide)
      by_cases hlt : n < 10
      · have hone : digits n = [digit (n % 10)] := by rw [digits_eq, if_pos hlt, List.nil_append]
        have hlast := absorb_digit 0 hmod (by omega)
        have hvalue : 0 * 10 + n % 10 = n := by omega
        rw [hone, hlast, hvalue]
        rfl
      · have hfront := ih (n / 10) (by omega) (by omega)
        have hlast := absorb_digit (n / 10) hmod (by omega)
        have hvalue : n / 10 * 10 + n % 10 = n := by omega
        have hall : digits n = digits (n / 10) ++ [digit (n % 10)] := by
          rw [digits_eq, if_neg hlt]
        rw [hall, absorb_append hfront, hlast, hvalue, List.length_append]
        rfl

/-- The digits of a number are scanned as the whole part of a number. -/
private theorem scanWhole_digits (n : Nat) : scanWhole (digits n) = some (digits n, []) := by
  have hall := isDigit_of_mem_digits n
  have hscan : scanDigits (digits n) = some (digits n, []) := by
    have htake : (digits n ++ []).takeWhile isDigit = digits n ++ [] :=
      List.takeWhile_append_of_pos hall
    have hdrop : (digits n ++ []).dropWhile isDigit = [] := List.dropWhile_append_of_pos hall
    rw [List.append_nil] at htake hdrop
    unfold scanDigits
    simp only [htake, hdrop]
    rw [if_neg (by simpa using digits_ne_nil n)]
  have hzero : ¬ ((digits n).head? == some 0x30 && (digits n).length != 1) = true := by
    intro h
    rw [Bool.and_eq_true, beq_iff_eq, bne_iff_ne] at h
    have hn := head_digits n h.1
    rw [hn] at h
    exact h.2 rfl
  rw [scanWhole, hscan]
  simp only [Option.bind_eq_bind, Option.bind_some]
  rw [if_neg hzero]

private theorem scanNumber_digits (negative : Bool) (n : Nat) :
    scanNumber negative (digits n) =
      some (.number (numberOf negative (digits n) none none), []) := by
  rw [scanNumber, scanWhole_digits]
  rfl

/-- Digits alone are an integer that fits in sixty-four bits. -/
private theorem numberOf_digits (negative : Bool) {n : Nat} (h : n < UInt64.size)
    (hnegative : negative = true → 0 < n ∧ n ≤ Nat.pow 2 63) :
    numberOf negative (digits n) none none =
      some (.integer (if negative then -(n : Int) else n)) := by
  unfold numberOf
  simp only [absorb_digits h]
  rw [if_pos]
  cases negative with
  | false => simp
  | true => simp [hnegative rfl]

end ClusterEvidence.Json.Token

namespace ClusterEvidence.Json

open Token (Tokenizes)

/-- A printed integer of sixty-four bits is the token of that integer. -/
theorem tokenizes_integer {n : Int} (h : InRange n) :
    Tokenizes (Text.encode (Number.integer n).text) [.number (some (.integer n))] := by
  obtain ⟨hlow, hhigh⟩ := h
  have hpow : Nat.pow 2 63 = 9223372036854775808 := rfl
  have hsize : UInt64.size = 18446744073709551616 := rfl
  refine .of_scan ?_
  rw [Number.text, Int.toString_eq_repr, Int.repr_eq_if]
  by_cases hn : 0 ≤ n
  · have hvalue := Token.numberOf_digits false (n := n.toNat) (by omega) (by simp)
    have hnumber := Token.scanNumber_digits false n.toNat
    rw [hvalue] at hnumber
    obtain ⟨b, rest, hdigits⟩ := List.exists_cons_of_ne_nil (Token.digits_ne_nil n.toNat)
    have hdigit := Token.isDigit_of_mem_digits n.toNat b (by rw [hdigits]; simp)
    have hscan := Token.scan_digit hdigit rest
    rw [← hdigits, hnumber] at hscan
    have hself : ((n.toNat : Nat) : Int) = n := Int.toNat_of_nonneg hn
    simp only [Bool.false_eq_true, if_false, hself] at hscan
    rw [if_pos hn, Nat.toList_repr]
    exact hscan
  · have hvalue := Token.numberOf_digits true (n := (-n).toNat) (by omega) (by omega)
    have hnumber := Token.scanNumber_digits true (-n).toNat
    rw [hvalue] at hnumber
    have hself : -(((-n).toNat : Nat) : Int) = n := by omega
    simp only [if_true, hself] at hnumber
    have htext : Text.encode ("-" ++ (-n).toNat.repr).toList = 0x2D :: Token.digits (-n).toNat := by
      rw [String.toList_append, Nat.toList_repr]
      exact Text.encode_ascii (by decide) _
    rw [if_neg hn, htext, Token.scan, hnumber]

end ClusterEvidence.Json
