import ClusterEvidence.Filter.Parser
import ClusterEvidence.Proofs.Json.Reader
import ClusterEvidence.Proofs.Text.Blank

/-!
# String literals in the text of a filter

Three readers look for string literals: the cut at `|` and `=`, the reader of a path, and the JSON
reader. They agree, because each of them ends a literal at the first quote that is not escaped
(`Enclosed`). Outside literals a JSON text and a path hold neither `|` nor `=` (`Balanced`), so that
no cut goes through them.

## Main results

* `Balanced.uncut` — a cut goes around a balanced text.
* `scanQuoted_enclosed` — a literal ends where it was closed.
* `enclosed_of_literal`, `balanced_of_readString` — what the JSON reader accepts is a literal, and
  balanced.
-/

namespace ClusterEvidence.Filter

open Text (encode)

/-! ## Cutting -/

/-- Pieces with some text put in front of the first one. -/
def prepend (front : List Char) : List (List Char) → List (List Char)
  | [] => [front]
  | piece :: pieces => (front ++ piece) :: pieces

theorem prepend_prepend (a b : List Char) (pieces : List (List Char)) :
    prepend a (prepend b pieces) = prepend (a ++ b) pieces := by
  cases pieces <;> simp [prepend]

theorem cutOutside_ne_nil (separator : Char) (quoting : Quoting) (text : List Char) :
    cutOutside separator quoting text ≠ [] := by
  cases text with
  | nil => simp [cutOutside]
  | cons c text =>
      rw [cutOutside]
      split
      · simp
      · split <;> simp

theorem prepend_nil (separator : Char) (quoting : Quoting) (text : List Char) :
    prepend [] (cutOutside separator quoting text) = cutOutside separator quoting text := by
  cases h : cutOutside separator quoting text with
  | nil => exact absurd h (cutOutside_ne_nil separator quoting text)
  | cons piece pieces => rfl

theorem cutOutside_separator (separator : Char) (text : List Char) :
    cutOutside separator .outside (separator :: text) =
      [] :: cutOutside separator .outside text := by
  rw [cutOutside, if_pos ⟨rfl, rfl⟩]

theorem cutOutside_cons {separator c : Char} {quoting : Quoting}
    (h : ¬ (quoting = .outside ∧ c = separator)) (text : List Char) :
    cutOutside separator quoting (c :: text) =
      prepend [c] (cutOutside separator (quoting.next c) text) := by
  rw [cutOutside, if_neg h]
  cases cutOutside separator (quoting.next c) text <;> rfl

/-- The pieces joined again by the separator are the text. -/
theorem intercalate_cutOutside (separator : Char) (quoting : Quoting) (text : List Char) :
    List.intercalate [separator] (cutOutside separator quoting text) = text := by
  induction text generalizing quoting with
  | nil => rfl
  | cons c text ih =>
      by_cases hcut : quoting = .outside ∧ c = separator
      · obtain ⟨rfl, rfl⟩ := hcut
        rw [cutOutside_separator]
        have hrest := ih .outside
        cases hpieces : cutOutside c .outside text with
        | nil => exact absurd hpieces (cutOutside_ne_nil c .outside text)
        | cons piece pieces =>
            rw [hpieces] at hrest
            rw [← hrest]
            simp [List.intercalate, List.intersperse]
      · rw [cutOutside_cons hcut]
        have hrest := ih (quoting.next c)
        cases hpieces : cutOutside separator (quoting.next c) text with
        | nil => exact absurd hpieces (cutOutside_ne_nil _ _ text)
        | cons piece pieces =>
            rw [hpieces] at hrest
            rw [← hrest]
            cases pieces <;> simp [prepend, List.intercalate, List.intersperse]

/-! ## Literals and what is around them -/

/-- A text between quotes: none of its quotes is not escaped. -/
inductive Enclosed : List Char → Prop where
  | nil : Enclosed []
  | character {c body} (hquote : c ≠ '"') (hbackslash : c ≠ '\\') (h : Enclosed body) :
      Enclosed (c :: body)
  | escaped {c body} (h : Enclosed body) : Enclosed ('\\' :: c :: body)

/-- A text that has neither `|` nor `=` outside string literals and ends outside of them. -/
inductive Balanced : List Char → Prop where
  | nil : Balanced []
  | character {c text} (hquote : c ≠ '"') (hpipe : c ≠ '|') (hequals : c ≠ '=')
      (h : Balanced text) : Balanced (c :: text)
  | literal {body text} (hbody : Enclosed body) (h : Balanced text) :
      Balanced ('"' :: (body ++ '"' :: text))

theorem Balanced.append {a b : List Char} (ha : Balanced a) (hb : Balanced b) :
    Balanced (a ++ b) := by
  induction ha with
  | nil => exact hb
  | character hquote hpipe hequals _ ih => exact .character hquote hpipe hequals ih
  | @literal body text hbody _ ih =>
      have happend : '"' :: (body ++ '"' :: text) ++ b = '"' :: (body ++ '"' :: (text ++ b)) := by
        simp
      rw [happend]
      exact .literal hbody ih

/-- Ordinary characters are balanced. -/
theorem balanced_of_forall {text : List Char}
    (h : ∀ c ∈ text, c ≠ '"' ∧ c ≠ '|' ∧ c ≠ '=') : Balanced text := by
  induction text with
  | nil => exact .nil
  | cons c text ih =>
      obtain ⟨hc, htext⟩ := List.forall_mem_cons.1 h
      exact .character hc.1 hc.2.1 hc.2.2 (ih htext)

/-- A balanced text does not begin with `=`. -/
theorem Balanced.head_ne {text : List Char} (h : Balanced text) : text.head? ≠ some '=' := by
  intro hhead
  cases h with
  | nil => cases hhead
  | character _ _ hequals _ =>
      rw [List.head?_cons, Option.some.injEq] at hhead
      exact hequals hhead
  | literal => cases hhead

private theorem cutOutside_enclosed (separator : Char) {body : List Char} (h : Enclosed body)
    (rest : List Char) :
    cutOutside separator .inside (body ++ '"' :: rest) =
      prepend (body ++ ['"']) (cutOutside separator .outside rest) := by
  induction h with
  | nil => rw [List.nil_append, cutOutside_cons (by simp)]; rfl
  | @character c body hquote hbackslash _ ih =>
      have hnext : Quoting.next c .inside = .inside := by simp [Quoting.next, hquote, hbackslash]
      rw [List.cons_append, cutOutside_cons (by simp), hnext, ih, prepend_prepend]
      rfl
  | @escaped c body _ ih =>
      have hnext : Quoting.next '\\' .inside = .escaped := rfl
      have hnext' : Quoting.next c .escaped = .inside := rfl
      rw [List.cons_append, List.cons_append, cutOutside_cons (by simp), hnext,
        cutOutside_cons (by simp), hnext', ih, prepend_prepend, prepend_prepend]
      rfl

/-- No cut at this separator goes through a text that begins outside string literals, and what
follows it stands outside of them again. -/
def Uncut (separator : Char) (text : List Char) : Prop :=
  ∀ rest, cutOutside separator .outside (text ++ rest) =
    prepend text (cutOutside separator .outside rest)

theorem Uncut.append {separator : Char} {a b : List Char} (ha : Uncut separator a)
    (hb : Uncut separator b) : Uncut separator (a ++ b) := by
  intro rest
  rw [List.append_assoc, ha, hb, prepend_prepend]

theorem Uncut.singleton {separator c : Char} (hquote : c ≠ '"') (hne : c ≠ separator) :
    Uncut separator [c] := by
  intro rest
  have hnext : Quoting.next c .outside = .outside := by simp [Quoting.next, hquote]
  rw [List.singleton_append, cutOutside_cons (by simp [hne]), hnext]

/-- A text that is not cut is its only piece. -/
theorem Uncut.eq_singleton {separator : Char} {text : List Char} (h : Uncut separator text) :
    cutOutside separator .outside text = [text] := by
  have hall := h []
  rw [List.append_nil] at hall
  rw [hall]
  simp [cutOutside, prepend]

/-- Before a separator a text that is not cut is the first piece. -/
theorem Uncut.cons {separator : Char} {text : List Char} (h : Uncut separator text)
    (rest : List Char) :
    cutOutside separator .outside (text ++ separator :: rest) =
      text :: cutOutside separator .outside rest := by
  rw [h, cutOutside_separator]
  simp [prepend]

/-- A cut goes around a balanced text. -/
theorem Balanced.uncut {separator : Char} (hseparator : separator = '|' ∨ separator = '=')
    {text : List Char} (h : Balanced text) : Uncut separator text := by
  intro rest
  induction h with
  | nil => rw [List.nil_append, prepend_nil]
  | @character c text hquote hpipe hequals _ ih =>
      have hnext : Quoting.next c .outside = .outside := by simp [Quoting.next, hquote]
      have hne : ¬ (Quoting.outside = .outside ∧ c = separator) := by
        rintro ⟨_, rfl⟩
        rcases hseparator with h | h
        · exact hpipe h
        · exact hequals h
      rw [List.cons_append, cutOutside_cons hne, hnext, ih, prepend_prepend]
      rfl
  | @literal body text hbody _ ih =>
      have hnext : Quoting.next '"' .outside = .inside := rfl
      have hne : ¬ (Quoting.outside = .outside ∧ '"' = separator) := by
        rintro ⟨_, rfl⟩
        rcases hseparator with h | h <;> cases h
      have hassoc : body ++ '"' :: text ++ rest = body ++ '"' :: (text ++ rest) := by simp
      rw [List.cons_append, cutOutside_cons hne, hnext, hassoc, cutOutside_enclosed _ hbody, ih,
        prepend_prepend, prepend_prepend]
      simp

/-- A literal ends where it was closed. -/
theorem scanQuoted_enclosed {body : List Char} (h : Enclosed body) (rest : List Char) :
    scanQuoted false (body ++ '"' :: rest) = some (body ++ ['"'], rest) := by
  induction h with
  | nil => rfl
  | @character c body hquote hbackslash _ ih =>
      have hescape : (c == '\\') = false := by simpa using hbackslash
      rw [List.cons_append, scanQuoted, if_neg hquote, hescape, ih]
      rfl
  | @escaped c body _ ih =>
      rw [List.cons_append, List.cons_append, scanQuoted, if_neg (by decide)]
      have hescape : (('\\' : Char) == '\\') = true := rfl
      rw [hescape, scanQuoted, ih]
      rfl

/-- What is read up to the closing quote is a literal; after a backslash its first character is
escaped. -/
theorem exists_inner_of_scanQuoted {escaped : Bool} {text body rest : List Char}
    (h : scanQuoted escaped text = some (body, rest)) :
    ∃ inner, body = inner ++ ['"'] ∧ text = inner ++ '"' :: rest ∧
      Enclosed (if escaped then '\\' :: inner else inner) := by
  induction text generalizing escaped body rest with
  | nil => simp [scanQuoted] at h
  | cons c text ih =>
      cases escaped with
      | true =>
          simp only [scanQuoted, Option.map_eq_some_iff, Prod.mk.injEq] at h
          obtain ⟨⟨found, _⟩, hscan, rfl, rfl⟩ := h
          obtain ⟨inner, rfl, rfl, hinner⟩ := ih hscan
          exact ⟨c :: inner, rfl, rfl, .escaped hinner⟩
      | false =>
          rw [scanQuoted] at h
          by_cases hquote : c = '"'
          · rw [if_pos hquote, Option.some.injEq, Prod.mk.injEq] at h
            obtain ⟨rfl, rfl⟩ := h
            exact ⟨[], rfl, by rw [hquote]; rfl, .nil⟩
          · rw [if_neg hquote, Option.map_eq_some_iff] at h
            obtain ⟨⟨found, _⟩, hscan, hbody⟩ := h
            cases hbody
            obtain ⟨inner, rfl, rfl, hinner⟩ := ih hscan
            refine ⟨c :: inner, rfl, rfl, ?_⟩
            by_cases hbackslash : c = '\\'
            · subst hbackslash
              exact hinner
            · have hescape : (c == '\\') = false := by simpa using hbackslash
              rw [hescape] at hinner
              exact .character hquote hbackslash hinner

/-! ## What the JSON reader sees -/

/-- Bytes between quotes encode a text between quotes, also after some bytes of a character whose
first byte stands in front. -/
private theorem enclosed_of_encode {bytes : Bytes} (more : Bytes) {text : List Char}
    (h : Json.Token.Enclosed bytes) (hmore : ∀ b ∈ more, 0x80 ≤ b.toNat)
    (hbytes : bytes = more ++ encode text) : Enclosed text := by
  induction h generalizing more text with
  | nil =>
      cases text with
      | nil => exact .nil
      | cons c text =>
          obtain ⟨b, rest, hc, _⟩ := Text.exists_utf8EncodeChar c
          rw [Text.encode_cons, hc] at hbytes
          simp at hbytes
  | @byte b body hquote hbackslash _ ih =>
      cases more with
      | cons d more =>
          rw [List.cons_append, List.cons.injEq] at hbytes
          exact ih more (fun x hx => hmore x (List.mem_cons_of_mem _ hx)) hbytes.2
      | nil =>
          cases text with
          | nil => simp at hbytes
          | cons c text =>
              obtain ⟨d, rest, hc, hrest, hself⟩ := Text.exists_utf8EncodeChar c
              rw [List.nil_append, Text.encode_cons, hc, List.cons_append, List.cons.injEq]
                at hbytes
              obtain ⟨rfl, hbody⟩ := hbytes
              refine .character ?_ ?_ (ih rest hrest hbody)
              · rintro rfl
                have hnat := (hself (.inl (by decide))).1
                exact hquote (UInt8.toNat_inj.1 hnat.symm)
              · rintro rfl
                have hnat := (hself (.inl (by decide))).1
                exact hbackslash (UInt8.toNat_inj.1 hnat.symm)
  | @escaped b body _ ih =>
      cases more with
      | cons d more =>
          rw [List.cons_append, List.cons.injEq] at hbytes
          have hd := hmore d List.mem_cons_self
          rw [← hbytes.1] at hd
          simp at hd
      | nil =>
          cases text with
          | nil => simp at hbytes
          | cons c text =>
              obtain ⟨d, rest, hc, _, hself⟩ := Text.exists_utf8EncodeChar c
              rw [List.nil_append, Text.encode_cons, hc, List.cons_append, List.cons.injEq]
                at hbytes
              obtain ⟨rfl, hbody⟩ := hbytes
              obtain ⟨hnat, rfl⟩ := hself (.inr (by decide))
              have hbackslash : c = '\\' := Char.toNat_inj.1 hnat
              cases text with
              | nil => simp at hbody
              | cons e text =>
                  obtain ⟨x, rest, he, hrest, _⟩ := Text.exists_utf8EncodeChar e
                  rw [List.nil_append, Text.encode_cons, he, List.cons_append, List.cons.injEq]
                    at hbody
                  rw [hbackslash]
                  exact .escaped (ih rest hrest hbody.2)

/-- An ASCII byte in front of an encoding is a character. -/
private theorem exists_of_encode_eq_cons {text : List Char} {b : UInt8} {rest : Bytes}
    (hb : b.toNat < 0x80) (h : encode text = b :: rest) :
    ∃ c tail, text = c :: tail ∧ c.toNat = b.toNat ∧ encode tail = rest := by
  obtain ⟨before, c, after, htext, hc, hbefore, hafter⟩ :=
    Text.exists_of_encode_eq_append hb (h.trans (List.nil_append _).symm)
  cases before with
  | nil => exact ⟨c, after, htext, hc, hafter⟩
  | cons d before =>
      obtain ⟨x, more, hd, _⟩ := Text.exists_utf8EncodeChar d
      rw [Text.encode_cons, hd] at hbefore
      cases hbefore

/-- Bytes of ordinary ASCII characters leave a text as balanced as what follows them. -/
private theorem balanced_of_plain {used left : Bytes} {text : List Char}
    (hused : ∀ b ∈ used, b.toNat < 0x80 ∧ b.toNat ≠ 0x22 ∧ b.toNat ≠ 0x7C ∧ b.toNat ≠ 0x3D)
    (h : encode text = used ++ left) (hleft : ∀ tail, encode tail = left → Balanced tail) :
    Balanced text := by
  induction used generalizing text with
  | nil => exact hleft text h
  | cons b used ih =>
      obtain ⟨⟨hascii, hquote, hpipe, hequals⟩, hrest⟩ := List.forall_mem_cons.1 hused
      obtain ⟨c, tail, rfl, hc, htail⟩ := exists_of_encode_eq_cons hascii h
      refine .character ?_ ?_ ?_ (ih hrest htail)
      · rintro rfl
        exact hquote hc.symm
      · rintro rfl
        exact hpipe hc.symm
      · rintro rfl
        exact hequals hc.symm

/-- A text that is a row of JSON tokens is balanced. -/
private theorem balanced_of_tokenizes {bytes : Bytes} {tokens : List Json.Token} {text : List Char}
    (h : Json.Token.Tokenizes bytes tokens) (htext : encode text = bytes) : Balanced text := by
  induction h generalizing text with
  | nil =>
      cases text with
      | nil => exact .nil
      | cons c text =>
          obtain ⟨b, more, hc, _⟩ := Text.exists_utf8EncodeChar c
          rw [Text.encode_cons, hc] at htext
          cases htext
  | @space b rest tokens hspace _ ih =>
      have hsplit : encode text = [b] ++ rest := htext
      refine balanced_of_plain ?_ hsplit fun tail htail => ih htail
      simp only [Json.Token.isSpace, Bool.or_eq_true, beq_iff_eq] at hspace
      rcases hspace with ((rfl | rfl) | rfl) | rfl <;> simp
  | @token used left token tokens hchunk _ _ ih =>
      cases hchunk with
      | @plain b used hplain =>
          refine balanced_of_plain (fun c hc => ?_) htext fun tail htail => ih htail
          have hc := hplain c hc
          simp only [Json.Token.isPlain, Bool.and_eq_true, decide_eq_true_eq, bne_iff_ne, ne_eq,
            ← UInt8.toNat_inj, UInt8.lt_iff_toNat_lt, UInt8.reduceToNat] at hc
          omega
      | @quoted body hbody =>
          have hopen : encode text = 0x22 :: (body ++ 0x22 :: left) := by simp [htext]
          obtain ⟨c, tail, rfl, hc, htail⟩ := exists_of_encode_eq_cons (by decide) hopen
          obtain ⟨inner, d, rest, rfl, hd, hinner, hrest⟩ :=
            Text.exists_of_encode_eq_append (by decide) htail
          have hfirst : c = '"' := Char.toNat_inj.1 hc
          have hlast : d = '"' := Char.toNat_inj.1 hd
          rw [hfirst, hlast]
          refine .literal ?_ (ih hrest)
          exact enclosed_of_encode [] hbody (by simp) hinner.symm

/-! ## Texts that are read -/

/-- A text that the JSON reader accepts is balanced. -/
theorem balanced_of_readString {text : List Char} {value : Json}
    (h : Json.readString (String.ofList text) = .ok value) : Balanced text := by
  rw [Json.readString, Text.encodeString, String.toList_ofList] at h
  obtain ⟨tokens, htokens, _⟩ := Json.exists_tokens_of_read h
  exact balanced_of_tokenizes htokens rfl

/-- A literal that the JSON reader accepts as a string has no further quote inside. -/
theorem enclosed_of_literal {body : List Char} {s : String}
    (h : Json.readString (String.ofList ('"' :: (body ++ ['"']))) = .ok (.string s)) :
    Enclosed body := by
  rw [Json.readString, Text.encodeString, String.toList_ofList] at h
  have hbytes : encode ('"' :: (body ++ ['"'])) = 0x22 :: (encode body ++ [0x22]) := by
    rw [Text.encode_ascii (by decide), Text.encode_append, Text.encode_ascii (by decide)]
    rfl
  rw [hbytes] at h
  exact enclosed_of_encode [] (Json.enclosed_of_read h) (by simp) rfl

/-- White space around a text that the JSON reader accepts makes no difference. -/
theorem readString_of_blank {front text tail : List Char} {value : Json}
    (h : Json.readString (String.ofList (front ++ text ++ tail)) = .ok value)
    (hfront : Text.Blank front) (htail : Text.Blank tail) :
    Json.readString (String.ofList text) = .ok value := by
  have hvisible : ∀ {run : List Char}, Text.Blank run →
      ∀ b ∈ encode run, Json.Token.isVisible b = false := by
    intro run hrun b hb
    have hb := Text.not_visible_of_mem_encode hrun hb
    simp only [Json.Token.isVisible, Bool.and_eq_false_iff, decide_eq_false_iff_not,
      UInt8.lt_iff_toNat_lt, UInt8.reduceToNat]
    omega
  rw [Json.readString, Text.encodeString, String.toList_ofList] at h ⊢
  rw [Text.encode_append, Text.encode_append] at h
  exact Json.read_of_trim h (hvisible hfront) (hvisible htail)

end ClusterEvidence.Filter
