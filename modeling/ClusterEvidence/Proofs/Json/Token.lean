import ClusterEvidence.Json.Token

/-!
# A text as a row of tokens

A scanner looks at most one byte past the token that it returns. So a token is scanned again
wherever the same bytes stand before the same next byte, before the end or before a byte that ends
every token (`ScansAs`), and a text that has tokens falls apart into the bytes of each of them and
the white space in between (`Tokenizes`). White space at the ends can be taken away without changing
the tokens.

Tokens are made of visible ASCII characters, string literals apart, and those begin and end with the
only quotes that are not escaped (`Enclosed`).

## Main results

* `exists_used_of_scan` — a token is scanned from its own bytes.
* `tokenizes_iff` — a text has tokens exactly when it is a row of them.
* `Tokenizes.of_append`, `Tokenizes.of_prepend` — what is not visible at the ends is no token.
* `Tokenizes.append` — two rows of tokens in a row, when the second begins with a stop.
-/

namespace ClusterEvidence.Json.Token

/-! ## One byte ahead -/

/-- A comma, a colon, a closing bracket or white space, which is a part of no token but itself. -/
def isStop (b : UInt8) : Bool := b == 0x2C || b == 0x3A || b == 0x5D || b == 0x7D || isSpace b

/-- A rest is empty, or begins like another one or with a byte that ends every token. -/
def Resumes (left other : Bytes) : Prop := ∀ b ∈ other.head?, isStop b = true ∨ b ∈ left.head?

theorem Resumes.refl (left : Bytes) : Resumes left left := fun _ hb => .inr hb

theorem Resumes.append {left other : Bytes} (h : Resumes left other) (front : Bytes) :
    Resumes (front ++ left) (front ++ other) := by
  cases front with
  | nil => exact h
  | cons b front => exact .refl (b :: front)

/-- What stays in front of a rest that is cut off begins like the whole. -/
private theorem Resumes.of_append (left tail : Bytes) : Resumes (left ++ tail) left := by
  cases left with
  | nil => simp [Resumes]
  | cons b left => exact .refl (b :: left)

theorem Resumes.trans {left middle other : Bytes} (h : Resumes left middle)
    (h' : Resumes middle other) : Resumes left other := by
  intro b hb
  rcases h' b hb with hstop | hmiddle
  · exact .inl hstop
  · exact h b hmiddle

/-- A property of the first byte of a rest and of every byte that ends a token is one of the first
byte of what resumes it. -/
theorem Resumes.head {left other : Bytes} (h : Resumes left other) {p : UInt8 → Prop}
    (hstop : ∀ b, isStop b = true → p b) (hleft : ∀ b ∈ left.head?, p b) :
    ∀ b ∈ other.head?, p b := by
  intro b hb
  rcases h b hb with hb | hb
  · exact hstop b hb
  · exact hleft b hb

theorem not_of_isStop {b : UInt8} (h : isStop b = true) :
    isDigit b = false ∧ b ≠ 0x2E ∧ b ≠ 0x65 ∧ b ≠ 0x45 := by
  simp only [isStop, isSpace, Bool.or_eq_true, beq_iff_eq] at h
  rcases h with (((rfl | rfl) | rfl) | rfl) | (((rfl | rfl) | rfl) | rfl) <;> decide

variable {α : Type}

/-- A scanner takes `used` as this value wherever the text goes on like `left`. -/
def ScansAs (scanner : Bytes → Option (α × Bytes)) (used left : Bytes) (value : α) : Prop :=
  ∀ other, Resumes left other → scanner (used ++ other) = some (value, other)

/-- A visible ASCII character that is neither a quote, nor a backslash, nor one that cuts a
filter. -/
def isPlain (b : UInt8) : Bool :=
  0x20 < b && b < 0x7F && b != 0x22 && b != 0x5C && b != 0x7C && b != 0x3D

theorem isPlain_of_isDigit {b : UInt8} (h : isDigit b = true) : isPlain b = true := by
  simp only [isDigit, Bool.and_eq_true, decide_eq_true_eq, UInt8.le_iff_toNat_le,
    UInt8.reduceToNat] at h
  simp only [isPlain, Bool.and_eq_true, decide_eq_true_eq, bne_iff_ne, ne_eq, ← UInt8.toNat_inj,
    UInt8.lt_iff_toNat_lt, UInt8.reduceToNat]
  omega

/-! ## Numbers -/

theorem scanDigits_prefix {bytes digits left : Bytes}
    (h : scanDigits bytes = some (digits, left)) :
    bytes = digits ++ left ∧ digits ≠ [] ∧ (∀ b ∈ digits, isDigit b = true) ∧
      ScansAs scanDigits digits left digits := by
  unfold scanDigits at h
  simp only at h
  split at h
  · cases h
  · next hne =>
      simp only [Option.some.injEq, Prod.mk.injEq] at h
      obtain ⟨rfl, rfl⟩ := h
      have hall : ∀ b ∈ bytes.takeWhile isDigit, isDigit b = true :=
        List.all_eq_true.1 List.all_takeWhile
      have hnil : bytes.takeWhile isDigit ≠ [] := by simpa using hne
      refine ⟨List.takeWhile_append_dropWhile.symm, hnil, hall, fun other hother => ?_⟩
      have hhead : ∀ b ∈ other.head?, isDigit b = false := by
        refine hother.head (fun b hb => (not_of_isStop hb).1) fun b hb => ?_
        have hnot := List.head?_dropWhile_not isDigit bytes
        rw [Option.mem_def] at hb
        rw [hb] at hnot
        exact hnot
      have hstop : other.takeWhile isDigit = [] ∧ other.dropWhile isDigit = other := by
        cases other with
        | nil => exact ⟨rfl, rfl⟩
        | cons b other => simp [hhead b rfl]
      unfold scanDigits
      simp only [List.takeWhile_append_of_pos hall, List.dropWhile_append_of_pos hall, hstop.1,
        hstop.2, List.append_nil]
      rw [if_neg hne]

private theorem scanWhole_prefix {bytes digits left : Bytes}
    (h : scanWhole bytes = some (digits, left)) :
    bytes = digits ++ left ∧ digits ≠ [] ∧ (∀ b ∈ digits, isDigit b = true) ∧
      ScansAs scanWhole digits left digits := by
  simp only [scanWhole, Option.bind_eq_bind, Option.bind_eq_some_iff] at h
  obtain ⟨⟨found, rest⟩, hdigits, h⟩ := h
  simp only at h
  split at h
  · cases h
  · next hzero =>
      simp only [Option.some.injEq, Prod.mk.injEq] at h
      obtain ⟨rfl, rfl⟩ := h
      obtain ⟨hbytes, hnil, hall, hscans⟩ := scanDigits_prefix hdigits
      refine ⟨hbytes, hnil, hall, fun other hother => ?_⟩
      rw [scanWhole, hscans other hother]
      simp only [Option.bind_eq_bind, Option.bind_some]
      rw [if_neg hzero]

private theorem scanFraction_prefix {bytes left : Bytes} {fraction : Option Bytes}
    (h : scanFraction bytes = some (fraction, left)) :
    ∃ used, bytes = used ++ left ∧ (∀ b ∈ used, isPlain b = true) ∧
      ScansAs scanFraction used left fraction := by
  unfold scanFraction at h
  split at h
  · next rest =>
      simp only [Option.map_eq_some_iff, Prod.mk.injEq] at h
      obtain ⟨⟨digits, _⟩, hdigits, rfl, rfl⟩ := h
      obtain ⟨hbytes, _, hall, hscans⟩ := scanDigits_prefix hdigits
      refine ⟨0x2E :: digits, by rw [hbytes]; rfl, ?_, fun other hother => ?_⟩
      · intro b hb
        rcases List.mem_cons.1 hb with rfl | hb
        · decide
        · exact isPlain_of_isDigit (hall b hb)
      · rw [List.cons_append, scanFraction, hscans other hother]
        rfl
  · next hpoint =>
      simp only [Option.some.injEq, Prod.mk.injEq] at h
      obtain ⟨rfl, rfl⟩ := h
      refine ⟨[], rfl, by simp, fun other hother => ?_⟩
      have hhead : ∀ b ∈ other.head?, b ≠ 0x2E := by
        refine hother.head (fun b hb => (not_of_isStop hb).2.1) fun b hb heq => ?_
        obtain ⟨rest, hrest⟩ := List.head?_eq_some_iff.1 hb
        exact hpoint rest (heq ▸ hrest)
      rw [List.nil_append]
      cases other with
      | nil => rfl
      | cons b other => simp [scanFraction, hhead b rfl]

/-- How an exponent begins. -/
def isExponentMark (b : UInt8) : Bool := b == 0x65 || b == 0x45

private theorem scanExponent_plus {b : UInt8} (hb : isExponentMark b = true) (rest : Bytes) :
    scanExponent (b :: 0x2B :: rest) =
      (scanDigits rest).map fun p => (some (valueOfDigits p.1 : Int), p.2) := by
  rw [isExponentMark] at hb
  rw [scanExponent, if_pos hb]
  rfl

private theorem scanExponent_minus {b : UInt8} (hb : isExponentMark b = true) (rest : Bytes) :
    scanExponent (b :: 0x2D :: rest) =
      (scanDigits rest).map fun p => (some (-(valueOfDigits p.1 : Int)), p.2) := by
  rw [isExponentMark] at hb
  rw [scanExponent, if_pos hb]
  rfl

private theorem scanExponent_unsigned {b : UInt8} (hb : isExponentMark b = true) {rest : Bytes}
    (hplus : ∀ tail, rest ≠ 0x2B :: tail) (hminus : ∀ tail, rest ≠ 0x2D :: tail) :
    scanExponent (b :: rest) =
      (scanDigits rest).map fun p => (some (valueOfDigits p.1 : Int), p.2) := by
  rw [isExponentMark] at hb
  unfold scanExponent
  simp only [hb, if_true]
  rfl

private theorem scanExponent_none {rest : Bytes} (h : ∀ b ∈ rest.head?, isExponentMark b = false) :
    scanExponent rest = some (none, rest) := by
  cases rest with
  | nil => rfl
  | cons b rest =>
      have hb : (b == 0x65 || b == 0x45) = false := h b rfl
      unfold scanExponent
      simp only [hb, Bool.false_eq_true, if_false]

private theorem ne_of_isDigit {b : UInt8} (h : isDigit b = true) : b ≠ 0x2B ∧ b ≠ 0x2D := by
  constructor <;> rintro rfl <;> simp [isDigit] at h

/-- An exponent is scanned again when the digits behind its mark and its sign are. -/
private theorem scanExponent_digits {b : UInt8} {more left : Bytes} {exponent : Option Int}
    (sign : Bytes) (value : Bytes → Option Int) (hb : isExponentMark b = true)
    (hsign : ∀ c ∈ sign, isPlain c = true)
    (hscan : ∀ d tail, isDigit d = true → scanExponent (b :: (sign ++ d :: tail)) =
      (scanDigits (d :: tail)).map fun p => (value p.1, p.2))
    (hmore : (scanDigits more).map (fun p => (value p.1, p.2)) = some (exponent, left)) :
    ∃ used, b :: (sign ++ more) = used ++ left ∧ (∀ c ∈ used, isPlain c = true) ∧
      ScansAs scanExponent used left exponent := by
  have hmark : isPlain b = true := by
    simp only [isExponentMark, Bool.or_eq_true, beq_iff_eq] at hb
    rcases hb with rfl | rfl <;> decide
  simp only [Option.map_eq_some_iff, Prod.mk.injEq] at hmore
  obtain ⟨⟨digits, _⟩, hmore, rfl, rfl⟩ := hmore
  obtain ⟨hbytes, hne, hall, hscans⟩ := scanDigits_prefix hmore
  refine ⟨b :: (sign ++ digits), by simp [hbytes], ?_, fun other hother => ?_⟩
  · intro c hc
    rcases List.mem_cons.1 hc with rfl | hc
    · exact hmark
    · rcases List.mem_append.1 hc with hc | hc
      · exact hsign c hc
      · exact isPlain_of_isDigit (hall c hc)
  · cases digits with
    | nil => exact absurd rfl hne
    | cons d digits =>
        have hd := hall d List.mem_cons_self
        rw [List.cons_append, List.append_assoc, List.cons_append, hscan d _ hd,
          ← List.cons_append, hscans other hother]
        rfl

private theorem scanExponent_prefix {bytes left : Bytes} {exponent : Option Int}
    (h : scanExponent bytes = some (exponent, left)) :
    ∃ used, bytes = used ++ left ∧ (∀ b ∈ used, isPlain b = true) ∧
      ScansAs scanExponent used left exponent := by
  by_cases hmark : ∃ b rest, bytes = b :: rest ∧ isExponentMark b = true
  · obtain ⟨b, rest, rfl, hb⟩ := hmark
    by_cases hplus : ∃ tail, rest = 0x2B :: tail
    · obtain ⟨tail, rfl⟩ := hplus
      rw [scanExponent_plus hb] at h
      have hsign : ∀ c ∈ [0x2B], isPlain c = true := List.all_eq_true.1 (by decide)
      exact scanExponent_digits [0x2B] (fun digits => some (valueOfDigits digits)) hb hsign
        (fun d tail _ => scanExponent_plus hb _) h
    · by_cases hminus : ∃ tail, rest = 0x2D :: tail
      · obtain ⟨tail, rfl⟩ := hminus
        rw [scanExponent_minus hb] at h
        have hsign : ∀ c ∈ [0x2D], isPlain c = true := List.all_eq_true.1 (by decide)
        exact scanExponent_digits [0x2D] (fun digits => some (-valueOfDigits digits)) hb hsign
          (fun d tail _ => scanExponent_minus hb _) h
      · rw [scanExponent_unsigned hb (not_exists.1 hplus) (not_exists.1 hminus)] at h
        refine scanExponent_digits [] (fun digits => some (valueOfDigits digits)) hb (by simp)
          (fun d tail hd => ?_) h
        have hne := ne_of_isDigit hd
        exact scanExponent_unsigned hb (fun _ heq => hne.1 (List.cons.inj heq).1)
          fun _ heq => hne.2 (List.cons.inj heq).1
  · have hhead : ∀ b ∈ bytes.head?, isExponentMark b = false := by
      intro b hb
      obtain ⟨rest, rfl⟩ := List.head?_eq_some_iff.1 hb
      rw [← Bool.not_eq_true]
      exact fun hmark' => hmark ⟨b, rest, rfl, hmark'⟩
    rw [scanExponent_none hhead] at h
    cases h
    refine ⟨[], rfl, by simp, fun other hother => scanExponent_none ?_⟩
    exact hother.head (fun b hb => by simp [isExponentMark, not_of_isStop hb]) hhead

private theorem scanNumber_prefix {negative : Bool} {bytes left : Bytes} {token : Token}
    (h : scanNumber negative bytes = some (token, left)) :
    ∃ used, bytes = used ++ left ∧ (∃ b tail, used = b :: tail ∧ isDigit b = true) ∧
      (∀ b ∈ used, isPlain b = true) ∧ ScansAs (scanNumber negative) used left token := by
  simp only [scanNumber, Option.bind_eq_bind, Option.bind_eq_some_iff, Option.some.injEq,
    Prod.mk.injEq] at h
  obtain ⟨⟨whole, rest⟩, hwhole, ⟨fraction, rest'⟩, hfraction, ⟨exponent, _⟩, hexponent, rfl,
      rfl⟩ :=
    h
  obtain ⟨rfl, hne, hdigits, hscans⟩ := scanWhole_prefix hwhole
  obtain ⟨point, hpoint, hplain, hscans'⟩ := scanFraction_prefix hfraction
  obtain ⟨power, hpower, hplain', hscans''⟩ := scanExponent_prefix hexponent
  simp only at hpoint hpower
  subst hpoint hpower
  refine ⟨whole ++ (point ++ power), by simp, ?_, ?_, fun other hother => ?_⟩
  · cases whole with
    | nil => exact absurd rfl hne
    | cons b whole => exact ⟨b, _, rfl, hdigits b List.mem_cons_self⟩
  · intro b hb
    rcases List.mem_append.1 hb with hb | hb
    · exact isPlain_of_isDigit (hdigits b hb)
    · rcases List.mem_append.1 hb with hb | hb
      · exact hplain b hb
      · exact hplain' b hb
  · have hafter := hother.append power
    have hafter' := hafter.append point
    rw [scanNumber, List.append_assoc, List.append_assoc, hscans _ hafter']
    simp only [Option.bind_eq_bind, Option.bind_some, hscans' _ hafter, hscans'' _ hother]

/-! ## Strings -/

/-- Bytes that stand between quotes: none of them is a quote that is not escaped. -/
inductive Enclosed : Bytes → Prop where
  | nil : Enclosed []
  | byte {b body} (hquote : b ≠ 0x22) (hbackslash : b ≠ 0x5C) (h : Enclosed body) :
      Enclosed (b :: body)
  | escaped {b body} (h : Enclosed body) : Enclosed (0x5C :: b :: body)

private theorem ne_of_hexDigit? {b : UInt8} {n : Nat} (h : hexDigit? b = some n) :
    b ≠ 0x22 ∧ b ≠ 0x5C := by
  constructor <;> rintro rfl <;> simp [hexDigit?] at h

private theorem ne_of_hexUnit? {a b c d : UInt8} {unit : Nat} (h : hexUnit? a b c d = some unit) :
    (a ≠ 0x22 ∧ a ≠ 0x5C) ∧ (b ≠ 0x22 ∧ b ≠ 0x5C) ∧ (c ≠ 0x22 ∧ c ≠ 0x5C) ∧
      (d ≠ 0x22 ∧ d ≠ 0x5C) := by
  simp only [hexUnit?, Option.bind_eq_bind, Option.bind_eq_some_iff] at h
  obtain ⟨_, ha, _, hb, _, hc, _, hd, _⟩ := h
  exact ⟨ne_of_hexDigit? ha, ne_of_hexDigit? hb, ne_of_hexDigit? hc, ne_of_hexDigit? hd⟩

theorem scanString_escape {b : UInt8} (hb : b ≠ 0x75) (rest : Bytes) :
    scanString (0x5C :: b :: rest) =
      (escaped? b).bind fun value => (scanString rest).map fun p => (.byte value :: p.1, p.2) := by
  rw [scanString]
  · cases escaped? b with
    | none => rfl
    | some value => cases scanString rest <;> rfl
  · exact fun _ _ _ _ _ heq => absurd heq hb

theorem scanString_byte {b : UInt8} (hquote : b ≠ 0x22) (hbackslash : b ≠ 0x5C)
    (hvisible : ¬ b < 0x20) (rest : Bytes) :
    scanString (b :: rest) = (scanString rest).map fun p => (.byte b :: p.1, p.2) := by
  have hb : (decide (b < 0x20) || b == 0x5C) = false := by simp [hvisible, hbackslash]
  rw [scanString]
  · rw [if_neg (by simp [hb])]
    cases scanString rest <;> rfl
  · exact hquote
  · exact fun _ _ _ _ _ heq => absurd heq hbackslash
  · exact fun _ _ heq => absurd heq hbackslash

private theorem scanString_prefix {bytes left : Bytes} {units : List Unit}
    (h : scanString bytes = some (units, left)) :
    ∃ body, bytes = body ++ 0x22 :: left ∧ Enclosed body ∧
      ∀ other, scanString (body ++ 0x22 :: other) = some (units, other) := by
  fun_induction scanString bytes generalizing units left with
  | case1 => simp at h
  | case2 rest =>
      simp only [Option.some.injEq, Prod.mk.injEq] at h
      obtain ⟨rfl, rfl⟩ := h
      exact ⟨[], rfl, .nil, fun other => rfl⟩
  | case3 a b c d rest ih =>
      simp only [Option.bind_eq_bind, Option.bind_eq_some_iff, Option.some.injEq,
        Prod.mk.injEq] at h
      obtain ⟨unit, hunit, ⟨found, _⟩, hscan, rfl, rfl⟩ := h
      obtain ⟨body, hrest, hbody, hagain⟩ := ih hscan
      obtain ⟨ha, hb, hc, hd⟩ := ne_of_hexUnit? hunit
      refine ⟨0x5C :: 0x75 :: a :: b :: c :: d :: body, by rw [hrest]; rfl, ?_, fun other => ?_⟩
      · exact .escaped (.byte ha.1 ha.2 (.byte hb.1 hb.2 (.byte hc.1 hc.2 (.byte hd.1 hd.2 hbody))))
      · simp only [List.cons_append, scanString, hunit, hagain, Option.bind_eq_bind,
          Option.bind_some]
  | case4 b rest hunit ih =>
      simp only [Option.bind_eq_bind, Option.bind_eq_some_iff, Option.some.injEq,
        Prod.mk.injEq] at h
      obtain ⟨value, hvalue, ⟨found, _⟩, hscan, rfl, rfl⟩ := h
      obtain ⟨body, hrest, hbody, hagain⟩ := ih hscan
      have hb : b ≠ 0x75 := by
        rintro rfl
        simp [escaped?] at hvalue
      refine ⟨0x5C :: b :: body, by rw [hrest]; rfl, .escaped hbody, fun other => ?_⟩
      rw [List.cons_append, List.cons_append, scanString_escape hb, hvalue, hagain]
      rfl
  | case5 => simp at h
  | case6 b rest hquote hlong hbackslash hb ih =>
      simp only [Option.bind_eq_bind, Option.bind_eq_some_iff, Option.some.injEq,
        Prod.mk.injEq] at h
      obtain ⟨⟨found, _⟩, hscan, rfl, rfl⟩ := h
      obtain ⟨body, hrest, hbody, hagain⟩ := ih hscan
      simp only [Bool.or_eq_true, decide_eq_true_eq, beq_iff_eq, not_or] at hb
      refine ⟨b :: body, by rw [hrest]; rfl, .byte hquote hb.2 hbody, fun other => ?_⟩
      rw [List.cons_append, scanString_byte hquote hb.2 hb.1, hagain]
      rfl

/-! ## One token -/

/-- A digit begins a number. -/
theorem scan_digit {b : UInt8} (h : isDigit b = true) (tail : Bytes) :
    scan (b :: tail) = scanNumber false (b :: tail) := by
  have hne : ∀ c, isDigit c = false → b ≠ c := by
    rintro c hc rfl
    simp [h] at hc
  rw [scan]
  all_goals
    intros
    exact absurd (List.cons.inj ‹b :: tail = _›).1 (hne _ (by decide))

/-- The bytes of a token. -/
inductive Chunk : Bytes → Prop where
  | plain {b used} (h : ∀ c ∈ b :: used, isPlain c = true) : Chunk (b :: used)
  | quoted {body} (h : Enclosed body) : Chunk (0x22 :: (body ++ [0x22]))

theorem Chunk.of_all {b : UInt8} {used : Bytes} (h : (b :: used).all isPlain = true) :
    Chunk (b :: used) :=
  .plain (List.all_eq_true.1 h)

/-- A token is scanned from its own bytes. -/
theorem exists_used_of_scan {bytes left : Bytes} {token : Token}
    (h : scan bytes = some (token, left)) :
    ∃ used, bytes = used ++ left ∧ Chunk used ∧ ScansAs scan used left token := by
  unfold scan at h
  split at h
  case h_10 rest =>
    simp only [Option.map_eq_some_iff, Prod.mk.injEq] at h
    obtain ⟨⟨units, _⟩, hscan, rfl, rfl⟩ := h
    obtain ⟨body, hrest, hbody, hagain⟩ := scanString_prefix hscan
    refine ⟨0x22 :: (body ++ [0x22]), by simp [hrest], .quoted hbody, fun other _ => ?_⟩
    have hother : 0x22 :: (body ++ [0x22]) ++ other = 0x22 :: (body ++ 0x22 :: other) := by simp
    rw [hother, scan, hagain]
    rfl
  case h_11 rest =>
    obtain ⟨used, hrest, _, hplain, hagain⟩ := scanNumber_prefix h
    refine ⟨0x2D :: used, by rw [hrest]; rfl, .plain ?_, fun other hother => ?_⟩
    · intro c hc
      rcases List.mem_cons.1 hc with rfl | hc
      · decide
      · exact hplain c hc
    · rw [List.cons_append, scan, hagain other hother]
  case h_12 =>
    obtain ⟨used, hrest, ⟨b, tail, rfl, hb⟩, hplain, hagain⟩ := scanNumber_prefix h
    refine ⟨b :: tail, hrest, .plain hplain, fun other hother => ?_⟩
    rw [List.cons_append, scan_digit hb, ← List.cons_append, hagain other hother]
  all_goals
    simp only [Option.some.injEq, Prod.mk.injEq] at h
    obtain ⟨rfl, rfl⟩ := h
  case h_1 => exact ⟨[0x5B], rfl, .of_all (by decide), fun _ _ => rfl⟩
  case h_2 => exact ⟨[0x5D], rfl, .of_all (by decide), fun _ _ => rfl⟩
  case h_3 => exact ⟨[0x7B], rfl, .of_all (by decide), fun _ _ => rfl⟩
  case h_4 => exact ⟨[0x7D], rfl, .of_all (by decide), fun _ _ => rfl⟩
  case h_5 => exact ⟨[0x3A], rfl, .of_all (by decide), fun _ _ => rfl⟩
  case h_6 => exact ⟨[0x2C], rfl, .of_all (by decide), fun _ _ => rfl⟩
  case h_7 => exact ⟨[0x6E, 0x75, 0x6C, 0x6C], rfl, .of_all (by decide), fun _ _ => rfl⟩
  case h_8 => exact ⟨[0x74, 0x72, 0x75, 0x65], rfl, .of_all (by decide), fun _ _ => rfl⟩
  case h_9 => exact ⟨[0x66, 0x61, 0x6C, 0x73, 0x65], rfl, .of_all (by decide), fun _ _ => rfl⟩

/-! ## A row of tokens -/

/-- A text is a row of tokens with white space anywhere in between. -/
inductive Tokenizes : Bytes → List Token → Prop where
  | nil : Tokenizes [] []
  | space {b rest tokens} (hspace : isSpace b = true) (h : Tokenizes rest tokens) :
      Tokenizes (b :: rest) tokens
  | token {used left token tokens} (hchunk : Chunk used) (hscan : ScansAs scan used left token)
      (h : Tokenizes left tokens) : Tokenizes (used ++ left) (token :: tokens)

/-- A character that shows. -/
def isVisible (b : UInt8) : Bool := 0x20 < b && b < 0x7F

private theorem isVisible_of_isPlain {b : UInt8} (h : isPlain b = true) : isVisible b = true := by
  simp only [isPlain, Bool.and_eq_true] at h
  simp [isVisible, h]

private theorem isVisible_of_isSpace {b : UInt8} (h : isSpace b = true) : isVisible b = false := by
  simp only [isSpace, Bool.or_eq_true, beq_iff_eq] at h
  rcases h with ((rfl | rfl) | rfl) | rfl <;> decide

/-- A token begins with a character that shows. -/
private theorem Chunk.exists_first {used : Bytes} (h : Chunk used) :
    ∃ b rest, used = b :: rest ∧ isVisible b = true := by
  cases h with
  | @plain b rest h => exact ⟨b, rest, rfl, isVisible_of_isPlain (h b List.mem_cons_self)⟩
  | quoted h => exact ⟨0x22, _, rfl, by decide⟩

/-- A token ends with a character that shows. -/
private theorem Chunk.exists_last {used : Bytes} (h : Chunk used) :
    ∃ front b, used = front ++ [b] ∧ isVisible b = true := by
  cases h with
  | @plain b rest h =>
      refine ⟨(b :: rest).dropLast, (b :: rest).getLast (by simp), ?_, ?_⟩
      · exact (List.dropLast_concat_getLast _).symm
      · exact isVisible_of_isPlain (h _ (List.getLast_mem _))
  | @quoted body h => exact ⟨0x22 :: body, 0x22, rfl, by decide⟩

private theorem tokenizes_of_all? {bytes : Bytes} {tokens : List Token}
    (h : all? bytes = some tokens) :
    Tokenizes bytes tokens := by
  fun_induction all? bytes generalizing tokens with
  | case1 =>
      cases h
      exact .nil
  | case2 b rest hspace ih => exact .space hspace (ih h)
  | case3 => cases h
  | case4 b rest hspace token left hscan ih =>
      rw [Option.map_eq_some_iff] at h
      obtain ⟨others, hothers, rfl⟩ := h
      obtain ⟨used, hbytes, hchunk, hagain⟩ := exists_used_of_scan hscan
      rw [hbytes]
      exact .token hchunk hagain (ih hothers)

private theorem all?_space {b : UInt8} (h : isSpace b = true) (rest : Bytes) :
    all? (b :: rest) = all? rest := by
  rw [all?, if_pos h]

private theorem all?_token {bytes left : Bytes} {token : Token}
    (hscan : scan bytes = some (token, left)) (hfirst : ∀ b ∈ bytes.head?, isSpace b = false) :
    all? bytes = (all? left).map (token :: ·) := by
  cases bytes with
  | nil => simp [scan, scanNumber, scanWhole, scanDigits] at hscan
  | cons b rest =>
      rw [all?, if_neg (by simp [hfirst b rfl])]
      split
      · next hnone =>
          rw [hscan] at hnone
          cases hnone
      · next hsome =>
          rw [hscan] at hsome
          cases hsome
          rfl

private theorem all?_of_tokenizes {bytes : Bytes} {tokens : List Token}
    (h : Tokenizes bytes tokens) :
    all? bytes = some tokens := by
  induction h with
  | nil => simp [all?]
  | space hspace _ ih => rw [all?_space hspace, ih]
  | @token used left token tokens hchunk hscan _ ih =>
      obtain ⟨b, rest, rfl, hb⟩ := hchunk.exists_first
      have hfirst : ∀ c ∈ (b :: rest ++ left).head?, isSpace c = false := by
        intro c hc
        cases hc
        rw [← Bool.not_eq_true]
        intro hspace
        rw [isVisible_of_isSpace hspace] at hb
        cases hb
      rw [all?_token (hscan left (.refl left)) hfirst, ih]
      rfl

/-- A text has tokens exactly when it is a row of them. -/
theorem tokenizes_iff {bytes : Bytes} {tokens : List Token} :
    Tokenizes bytes tokens ↔ all? bytes = some tokens :=
  ⟨all?_of_tokenizes, tokenizes_of_all?⟩

namespace Tokenizes

/-- What does not show in front of a text is no part of a token. -/
theorem of_prepend {front bytes : Bytes} {tokens : List Token}
    (h : Tokenizes (front ++ bytes) tokens) (hfront : ∀ b ∈ front, isVisible b = false) :
    Tokenizes bytes tokens := by
  induction front with
  | nil => exact h
  | cons b front ih =>
      have hb := hfront b List.mem_cons_self
      have hrest : ∀ c ∈ front, isVisible c = false := fun c hc =>
        hfront c (List.mem_cons_of_mem _ hc)
      generalize hall : b :: front ++ bytes = all at h
      cases h with
      | nil => simp at hall
      | space hspace h =>
          rw [List.cons_append, List.cons.injEq] at hall
          rw [← hall.2] at h
          exact ih h hrest
      | token hchunk hscan h =>
          obtain ⟨c, rest, rfl, hc⟩ := hchunk.exists_first
          rw [List.cons_append, List.cons_append, List.cons.injEq] at hall
          rw [← hall.1, hb] at hc
          cases hc

/-- What does not show behind a text is no part of a token. -/
theorem of_append {bytes tail : Bytes} {tokens : List Token}
    (h : Tokenizes (bytes ++ tail) tokens) (htail : ∀ b ∈ tail, isVisible b = false) :
    Tokenizes bytes tokens := by
  generalize hall : bytes ++ tail = all at h
  induction h generalizing bytes with
  | nil =>
      rw [(List.append_eq_nil_iff.1 hall).1]
      exact .nil
  | @space b rest tokens hspace h ih =>
      cases bytes with
      | nil =>
          have hwhole : Tokenizes (tail ++ []) tokens := by
            rw [List.append_nil, ← List.nil_append tail, hall]
            exact .space hspace h
          exact hwhole.of_prepend htail
      | cons c bytes =>
          rw [List.cons_append, List.cons.injEq] at hall
          rw [hall.1]
          exact .space hspace (ih hall.2)
  | @token used left token tokens hchunk hscan h ih =>
      have hkeep : ∀ more, bytes = used ++ more → left = more ++ tail →
          Tokenizes bytes (token :: tokens) := by
        intro more hbytes hleft
        rw [hbytes]
        refine .token hchunk (fun other hother => hscan other ?_) (ih hleft.symm)
        rw [hleft]
        exact (Resumes.of_append more tail).trans hother
      rcases List.append_eq_append_iff.1 hall with ⟨more, hused, htail'⟩ | ⟨more, hbytes, hleft⟩
      · by_cases hmore : more = []
        · subst hmore
          refine hkeep [] ?_ htail'.symm
          rw [hused, List.append_nil, List.append_nil]
        · -- The last byte of the token would stand in the tail.
          obtain ⟨front, b, hlast, hb⟩ := hchunk.exists_last
          have hmem : b ∈ more := by
            have hget : (bytes ++ more).getLast? = some b := by
              rw [← hused, hlast, List.getLast?_concat]
            rw [List.getLast?_append, Option.or_eq_some_iff] at hget
            rcases hget with hget | ⟨hnone, _⟩
            · exact List.mem_of_getLast? hget
            · exact absurd (List.getLast?_eq_none_iff.1 hnone) hmore
          have hnot := htail b (htail' ▸ List.mem_append_left left hmem)
          rw [hb] at hnot
          cases hnot
      · exact hkeep more hbytes hleft

/-- A text that begins with a stop goes on with tokens of its own. -/
theorem append {bytes rest : Bytes} {tokens others : List Token} (h : Tokenizes bytes tokens)
    (hrest : Tokenizes rest others) (hstop : ∀ b ∈ rest.head?, isStop b = true) :
    Tokenizes (bytes ++ rest) (tokens ++ others) := by
  induction h with
  | nil => exact hrest
  | space hspace _ ih => exact .space hspace ih
  | @token used left token tokens hchunk hscan _ ih =>
      have hresumes : ∀ other, Resumes (left ++ rest) other → Resumes left other := by
        intro other hother b hb
        rcases hother b hb with hb | hb
        · exact .inl hb
        · rw [List.head?_append] at hb
          cases hleft : left.head? with
          | none =>
              rw [hleft] at hb
              exact .inl (hstop b hb)
          | some c =>
              rw [hleft] at hb
              exact .inr hb
      rw [List.append_assoc]
      exact .token hchunk (fun other hother => hscan other (hresumes other hother)) ih

/-- A text without tokens is white space. -/
theorem isSpace_of_nil {bytes : Bytes} (h : Tokenizes bytes []) :
    ∀ b ∈ bytes, isSpace b = true := by
  generalize hnil : ([] : List Token) = tokens at h
  induction h with
  | nil => simp
  | space hspace _ ih =>
      intro c hc
      rcases List.mem_cons.1 hc with rfl | hc
      · exact hspace
      · exact ih hnil c hc
  | token => cases hnil

end Tokenizes

end ClusterEvidence.Json.Token
