import ClusterEvidence.Proofs.Filter.Grammar
import Mathlib.Data.List.Induction

/-!
# Reading a path

Each reader of a part of a path accepts, at the front of what is left of a text, exactly the texts
that the grammar gives that part, and stands behind them afterwards. For a part that could go on,
such as a name, the text behind it has to begin a new segment or to be empty.

## Main results

* `segment_sound`, `segment_complete` — one segment.
* `path_iff` — a whole path.
-/

namespace ClusterEvidence.Filter

open Text (Blank Begins Cursor isBlank)

/-! ## Moving a cursor -/

theorem rest_skip (p : Char → Bool) (c : Cursor) : (c.skip p).rest = c.rest.dropWhile p := rfl

theorem rest_next {c : Cursor} {d : Char} {rest : List Char} (h : c.rest = d :: rest) :
    c.next.rest = rest := by
  simp [Cursor.next, h]

/-- Skipping a run ends where it ends. -/
theorem dropWhile_run {p : Char → Bool} {run rest : List Char} (hrun : ∀ c ∈ run, p c = true)
    (hrest : ∀ c ∈ rest.head?, p c = false) :
    (run ++ rest).takeWhile p = run ∧ (run ++ rest).dropWhile p = rest := by
  rw [List.takeWhile_append_of_pos hrun, List.dropWhile_append_of_pos hrun]
  cases rest with
  | nil => simp
  | cons c rest => simp [hrest c rfl]

/-- White space in front of another character is skipped. -/
private theorem rest_skip_blank {c : Cursor} {front rest : List Char} (h : c.rest = front ++ rest)
    (hfront : Blank front) (hrest : Begins rest) : (c.skip isBlank).rest = rest := by
  rw [rest_skip, h]
  exact (dropWhile_run hfront hrest).2

/-- What is skipped is white space. -/
private theorem exists_skip_blank (c : Cursor) :
    ∃ front, c.rest = front ++ (c.skip isBlank).rest ∧ Blank front := by
  obtain ⟨front, hrest, hfront, _⟩ := Text.exists_trimStart c.rest
  exact ⟨front, hrest, hfront⟩

/-! ## Indices -/

/-- Numerals one digit at a time, as their values are summed up. -/
private theorem valueOfDigits_concat (digits : List Char) (c : Char) :
    Text.valueOfDigits (digits ++ [c]) =
      10 * Text.valueOfDigits digits + (c.toNat - '0'.toNat) := by
  rw [Text.valueOfDigits, List.foldl_append, List.foldl_cons, List.foldl_nil, Nat.mul_comm]
  rfl

private theorem IsNumeral.valueOfDigits {digits : List Char} {n : Nat} (h : IsNumeral digits n) :
    Text.valueOfDigits digits = n := by
  induction h with
  | @one c n hdigit =>
      have hvalue := valueOfDigits_concat [] c
      rw [(isDigit_iff.1 hdigit).2] at hvalue
      exact hvalue.trans (Nat.zero_add n)
  | more _ hdigit ih => rw [valueOfDigits_concat, ih, (isDigit_iff.1 hdigit).2]

/-- Digits are a numeral. -/
private theorem isNumeral_of_isDigit {digits : List Char} (hne : digits ≠ [])
    (h : ∀ c ∈ digits, c.isDigit = true) : IsNumeral digits (Text.valueOfDigits digits) := by
  induction digits using List.reverseRecOn with
  | nil => exact absurd rfl hne
  | append_singleton digits c ih =>
      have hdigit : IsDigit c (c.toNat - '0'.toNat) := isDigit_iff.2 ⟨h c (by simp), rfl⟩
      rw [valueOfDigits_concat]
      by_cases hnil : digits = []
      · subst hnil
        have hone : 10 * Text.valueOfDigits [] + (c.toNat - '0'.toNat) = c.toNat - '0'.toNat :=
          Nat.zero_add _
        rw [hone]
        exact .one hdigit
      · exact .more (ih hnil fun d hd => h d (List.mem_append_left _ hd)) hdigit

private theorem natural?_eq_some_iff {digits : List Char} {n : Nat} :
    Text.natural? digits = some n ↔ IsNumeral digits n := by
  have hreads : Text.natural? digits = some n ↔
      (digits ≠ [] ∧ ∀ c ∈ digits, c.isDigit = true) ∧ Text.valueOfDigits digits = n := by
    simp [Text.natural?, and_assoc]
  rw [hreads]
  constructor
  · rintro ⟨⟨hne, hdigits⟩, rfl⟩
    exact isNumeral_of_isDigit hne hdigits
  · intro h
    exact ⟨⟨h.ne_nil, h.isDigit⟩, h.valueOfDigits⟩

private theorem index?_minus (digits : List Char) :
    index? ('-' :: digits) =
      (Text.natural? digits).bind fun n =>
        if n ≤ Nat.pow 2 63 then some (-(n : Int)) else none := by
  simp only [index?]
  cases Text.natural? digits <;> rfl

private theorem index?_digits {text : List Char} (h : ∀ digits, text ≠ '-' :: digits) :
    index? text =
      (Text.natural? text).bind fun n => if n < Nat.pow 2 63 then some (n : Int) else none := by
  simp only [index?]
  cases Text.natural? text <;> rfl

private theorem ne_minus_of_digits {text digits : List Char} (h : ∀ c ∈ text, c.isDigit = true) :
    text ≠ '-' :: digits := by
  rintro rfl
  exact absurd (h '-' List.mem_cons_self) (by decide)

/-- The reader of indices reads what the grammar calls an index. -/
private theorem index?_eq_some_iff {text : List Char} {position : Int} :
    index? text = some position ↔ IsIndex text position := by
  constructor
  · intro h
    by_cases hminus : ∃ digits, text = '-' :: digits
    · obtain ⟨digits, rfl⟩ := hminus
      rw [index?_minus, Option.bind_eq_some_iff] at h
      obtain ⟨n, hn, h⟩ := h
      by_cases hfits : n ≤ Nat.pow 2 63
      · rw [if_pos hfits, Option.some.injEq] at h
        rw [← h]
        exact .negative (natural?_eq_some_iff.1 hn) hfits
      · rw [if_neg hfits] at h
        cases h
    · rw [index?_digits (not_exists.1 hminus), Option.bind_eq_some_iff] at h
      obtain ⟨n, hn, h⟩ := h
      by_cases hfits : n < Nat.pow 2 63
      · rw [if_pos hfits, Option.some.injEq] at h
        rw [← h]
        exact .positive (natural?_eq_some_iff.1 hn) hfits
      · rw [if_neg hfits] at h
        cases h
  · intro h
    cases h with
    | positive hdigits hfits =>
        rw [index?_digits fun _ => ne_minus_of_digits hdigits.isDigit,
          natural?_eq_some_iff.2 hdigits, Option.bind_some, if_pos hfits]
    | negative hdigits hfits =>
        rw [index?_minus, natural?_eq_some_iff.2 hdigits, Option.bind_some, if_pos hfits]

private theorem IsIndex.isIndexChar {text : List Char} {position : Int}
    (h : IsIndex text position) :
    ∀ c ∈ text, isIndexChar c = true := by
  have hdigits : ∀ {digits : List Char} {n : Nat}, IsNumeral digits n →
      ∀ c ∈ digits, Filter.isIndexChar c = true := by
    intro digits n h c hc
    simp [Filter.isIndexChar, h.isDigit c hc]
  cases h with
  | positive h _ => exact hdigits h
  | negative h _ => exact List.forall_mem_cons.2 ⟨by decide, hdigits h⟩

private theorem IsIndex.exists_first {text : List Char} {position : Int}
    (h : IsIndex text position) :
    ∃ first others, text = first :: others ∧ Filter.isIndexChar first = true := by
  have hchars := h.isIndexChar
  cases h with
  | positive hdigits _ =>
      obtain ⟨first, others, rfl⟩ := List.exists_cons_of_ne_nil hdigits.ne_nil
      exact ⟨first, others, rfl, hchars first List.mem_cons_self⟩
  | negative => exact ⟨_, _, rfl, by decide⟩

private theorem visible_isIndexChar : Text.Visible isIndexChar :=
  Text.visible_of_marks ['-']
    (fun c hc => by
      simp only [isIndexChar, Bool.or_eq_true, beq_iff_eq] at hc
      simpa [Char.isAlphanum] using hc.imp_left .inr)
    (by simp)

/-- Neither white space nor the closing bracket is a part of an index. -/
private theorem not_isIndexChar_behind {after : List Char} (hafter : Blank after)
    (rest : List Char) :
    ∀ d ∈ (after ++ ']' :: rest).head?, isIndexChar d = false := by
  intro d hd
  cases after with
  | nil =>
      cases hd
      decide
  | cons e after =>
      cases hd
      exact visible_isIndexChar.not_of_isBlank (hafter _ List.mem_cons_self)

/-! ## String literals -/

/-- A string literal begins with a quote. -/
private theorem Literal.exists_tail {text : List Char} {key : String} (h : Literal text key)
    (rest : List Char) : ∃ tail, text ++ rest = '"' :: tail := by
  obtain ⟨body, rfl, _⟩ := h
  exact ⟨_, rfl⟩

private theorem quoted_sound {c d : Cursor} {key : String} {tail : List Char}
    (hc : c.rest = '"' :: tail)
    (h : quoted c = .ok (key, d)) : ∃ text, Literal text key ∧ c.rest = text ++ d.rest := by
  unfold quoted at h
  rw [hc, List.drop_one, List.tail_cons] at h
  split at h
  · cases h
  · next body rest hscan =>
      split at h
      · next found hfound =>
          cases h
          obtain ⟨inner, rfl, rfl, _⟩ := exists_inner_of_scanQuoted hscan
          refine ⟨'"' :: (inner ++ ['"']), ⟨inner, rfl, ?_⟩, by simp [hc, Cursor.past]⟩
          unfold stringOfLiteral at hfound
          split at hfound
          · next s hread =>
              cases hfound
              exact hread
          · cases hfound
          · cases hfound
      · cases h

private theorem quoted_complete {c : Cursor} {key : String} {text rest : List Char}
    (h : Literal text key) (hc : c.rest = text ++ rest) :
    ∃ d, quoted c = .ok (key, d) ∧ d.rest = rest := by
  obtain ⟨body, rfl, hread⟩ := h
  have hscan : scanQuoted false (c.rest.drop 1) = some (body ++ ['"'], rest) := by
    rw [hc, List.cons_append, List.drop_one, List.tail_cons, List.append_assoc,
      List.singleton_append]
    exact scanQuoted_enclosed (enclosed_of_literal hread) rest
  have hkey : stringOfLiteral ('"' :: (body ++ ['"'])) = .ok key := by
    rw [stringOfLiteral, hread]
  refine ⟨c.past ('"' :: (body ++ ['"'])) rest, ?_, rfl⟩
  unfold quoted
  rw [hscan]
  dsimp only
  rw [hkey]

/-! ## Brackets -/

private theorem closeBracket_sound {c d : Cursor} {step found : Step}
    (h : closeBracket step c = .ok (found, d)) :
    found = step ∧ ∃ after, Blank after ∧ c.rest = after ++ ']' :: d.rest := by
  unfold closeBracket at h
  simp only at h
  split at h
  · next rest hrest =>
      cases h
      obtain ⟨front, hfront, hblank⟩ := exists_skip_blank c
      rw [rest_next hrest]
      exact ⟨rfl, front, hblank, by rw [hfront, hrest]⟩
  · cases h

private theorem closeBracket_complete {c : Cursor} (step : Step) {after rest : List Char}
    (hafter : Blank after) (hc : c.rest = after ++ ']' :: rest) :
    ∃ d, closeBracket step c = .ok (step, d) ∧ d.rest = rest := by
  have hclose : Begins (']' :: rest) := Text.begins_of_head rfl (by decide)
  have hrest := rest_skip_blank hc hafter hclose
  refine ⟨(c.skip isBlank).next, ?_, rest_next hrest⟩
  unfold closeBracket
  simp only [hrest]

private theorem bracket_sound {c d : Cursor} {step : Step} {tail : List Char}
    (hc : c.rest = '[' :: tail) (h : bracket c = .ok (step, d)) :
    ∃ text, DerivesBracket text step ∧ c.rest = text ++ d.rest := by
  obtain ⟨before, hbefore, hblank⟩ := exists_skip_blank c.next
  rw [rest_next hc] at hbefore
  unfold bracket at h
  simp only at h
  split at h
  · next rest hrest =>
      cases h
      refine ⟨_, .iterate hblank, ?_⟩
      rw [rest_next hrest, hc, hbefore, hrest]
      simp
  · next rest hrest =>
      cases hquoted : quoted (c.next.skip isBlank) with
      | error e => simp [hquoted, bind, Except.bind] at h
      | ok found =>
          obtain ⟨key, e⟩ := found
          simp only [hquoted, bind, Except.bind] at h
          obtain ⟨literal, hliteral, hleft⟩ := quoted_sound hrest hquoted
          obtain ⟨rfl, after, hafter, hclose⟩ := closeBracket_sound h
          refine ⟨_, .field hblank hliteral hafter, ?_⟩
          rw [hc, hbefore, hleft, hclose]
          simp
  · split at h
    · next position hindex =>
        obtain ⟨rfl, after, hafter, hclose⟩ := closeBracket_sound h
        refine ⟨_, .index hblank (index?_eq_some_iff.1 hindex) hafter, ?_⟩
        have hsplit := List.takeWhile_append_dropWhile (p := isIndexChar)
          (l := (c.next.skip isBlank).rest)
        rw [← rest_skip, hclose] at hsplit
        rw [hc, hbefore, List.cons_append, List.append_assoc, List.append_assoc, List.append_assoc,
          List.singleton_append, hsplit]
    · cases h

private theorem bracket_complete {c : Cursor} {text rest : List Char} {step : Step}
    (h : DerivesBracket text step) (hc : c.rest = text ++ rest) :
    ∃ d, bracket c = .ok (step, d) ∧ d.rest = rest := by
  cases h with
  | @iterate before hbefore =>
      have hopen : c.rest = '[' :: (before ++ ']' :: rest) := by simp [hc]
      have hclose : Begins (']' :: rest) := Text.begins_of_head rfl (by decide)
      have hrest := rest_skip_blank (rest_next hopen) hbefore hclose
      refine ⟨(c.next.skip isBlank).next, ?_, rest_next hrest⟩
      unfold bracket
      simp only [hrest]
  | @field before literal key after hbefore hliteral hafter =>
      have hopen : c.rest = '[' :: (before ++ (literal ++ (after ++ ']' :: rest))) := by simp [hc]
      obtain ⟨tail, htail⟩ := hliteral.exists_tail (after ++ ']' :: rest)
      have hblank : Begins (literal ++ (after ++ ']' :: rest)) :=
        Text.begins_of_head (congrArg List.head? htail) (by decide)
      have hrest := rest_skip_blank (rest_next hopen) hbefore hblank
      obtain ⟨e, hquoted, he⟩ := quoted_complete hliteral hrest
      obtain ⟨d, hclose, hd⟩ := closeBracket_complete (.field key) hafter he
      refine ⟨d, ?_, hd⟩
      unfold bracket
      simp only [hrest, htail, hquoted, bind, Except.bind, hclose]
  | @index before digits position after hbefore hindex hafter =>
      have hopen : c.rest = '[' :: (before ++ (digits ++ (after ++ ']' :: rest))) := by simp [hc]
      obtain ⟨first, others, rfl, hfirst⟩ := hindex.exists_first
      have hblank : Begins (first :: others ++ (after ++ ']' :: rest)) :=
        Text.begins_of_head rfl (visible_isIndexChar.isBlank hfirst)
      have hrest := rest_skip_blank (rest_next hopen) hbefore hblank
      obtain ⟨htake, hdrop⟩ := dropWhile_run hindex.isIndexChar (not_isIndexChar_behind hafter rest)
      have hleft : ((c.next.skip isBlank).skip isIndexChar).rest = after ++ ']' :: rest := by
        rw [rest_skip, hrest, hdrop]
      obtain ⟨d, hclose, hd⟩ := closeBracket_complete (.index position) hafter hleft
      refine ⟨d, ?_, hd⟩
      have hne : first ≠ ']' ∧ first ≠ '"' := by
        constructor <;> rintro rfl <;> exact absurd hfirst (by decide)
      unfold bracket
      simp only [hrest]
      split
      · next heq => exact absurd (List.cons.inj heq).1 hne.1
      · next heq => exact absurd (List.cons.inj heq).1 hne.2
      · rw [htake, index?_eq_some_iff.2 hindex]
        exact hclose

/-! ## Segments -/

/-- A bracket without a dot is a segment. -/
theorem segment_bracket {c : Cursor} {tail : List Char} (hc : c.rest = '[' :: tail) :
    segment c = bracket c := by
  unfold segment
  simp only [hc]

/-- A dot in front of a bracket makes no difference. -/
theorem segment_dottedBracket {c : Cursor} {tail : List Char} (hc : c.rest = '.' :: '[' :: tail) :
    segment c = bracket c.next := by
  unfold segment
  simp only [hc]

/-- A literal behind a dot is the name of a field. -/
theorem segment_literal {c : Cursor} {tail : List Char} (hc : c.rest = '.' :: '"' :: tail) :
    segment c = (quoted c.next).map fun found => (.field found.1, found.2) := by
  unfold segment
  simp only [hc]

/-- Anything else behind a dot has to be an identifier. -/
theorem segment_name {c : Cursor} {first : Char} {tail : List Char}
    (hc : c.rest = '.' :: first :: tail) (hquote : first ≠ '"') (hopen : first ≠ '[') :
    segment c = if isNameStart first then
      .ok (.field (String.ofList (c.next.rest.takeWhile isNameChar)), c.next.skip isNameChar)
    else .error ⟨c.next.offset, .expectedFieldName⟩ := by
  unfold segment
  simp only [hc]

/-- A text that may stand behind a segment. -/
def Resumes (rest : List Char) : Prop := ∀ c ∈ rest.head?, c = '.' ∨ c = '['

theorem segment_sound {c d : Cursor} {step : Step} (h : segment c = .ok (step, d)) :
    ∃ text, DerivesSegment text step ∧ c.rest = text ++ d.rest := by
  unfold segment at h
  split at h
  · next rest hrest =>
      have hnext : c.next.rest = rest := rest_next hrest
      simp only at h
      split at h
      · cases h
      · next tail =>
          cases hquoted : quoted c.next with
          | error e => simp [hquoted, Except.map] at h
          | ok found =>
              simp only [hquoted, Except.map, Except.ok.injEq, Prod.mk.injEq] at h
              obtain ⟨rfl, rfl⟩ := h
              obtain ⟨text, hliteral, hleft⟩ := quoted_sound hnext hquoted
              refine ⟨'.' :: text, .literal hliteral, ?_⟩
              rw [hrest, List.cons_append, ← hleft, hnext]
      · next tail =>
          obtain ⟨text, hbracket, hleft⟩ := bracket_sound hnext h
          refine ⟨'.' :: text, .dotted hbracket, ?_⟩
          rw [hrest, List.cons_append, ← hleft, hnext]
      · next first tail _ _ =>
          split at h
          · next hfirst =>
              cases h
              have hchar := isNameChar_of_isNameStart hfirst
              rw [hnext, List.takeWhile_cons, if_pos hchar]
              have hname : ∀ c ∈ tail.takeWhile isNameChar, isNameChar c = true :=
                List.all_eq_true.1 List.all_takeWhile
              refine ⟨_, .name (isNameStart_iff.1 hfirst) fun c hc => isNameChar_iff.1 (hname c hc),
                ?_⟩
              rw [hrest, rest_skip, hnext, List.dropWhile_cons, if_pos hchar, List.cons_append,
                List.cons_append, List.takeWhile_append_dropWhile]
          · cases h
  · next rest hrest =>
      obtain ⟨text, hbracket, hleft⟩ := bracket_sound hrest h
      exact ⟨text, .bracket hbracket, hleft⟩
  · cases h

theorem segment_complete {c : Cursor} {text rest : List Char} {step : Step}
    (h : DerivesSegment text step) (hrest : Resumes rest) (hc : c.rest = text ++ rest) :
    ∃ d, segment c = .ok (step, d) ∧ d.rest = rest := by
  have hbracket : ∀ {text step}, DerivesBracket text step → ∃ tail, text = '[' :: tail := by
    intro text step h
    cases h <;> exact ⟨_, rfl⟩
  cases h with
  | @name first name hfirst hname =>
      have hnext : c.next.rest = first :: (name ++ rest) := rest_next hc
      have hall := isNameChar_of_mem hfirst hname
      have hstop : ∀ d ∈ rest.head?, isNameChar d = false := by
        intro d hd
        rcases hrest d hd with rfl | rfl <;> decide
      obtain ⟨htake, hdrop⟩ := dropWhile_run hall hstop
      have hne : first ≠ '"' ∧ first ≠ '[' := by
        constructor <;> rintro rfl <;> exact absurd hfirst (by decide)
      refine ⟨c.next.skip isNameChar, ?_, by rw [rest_skip, hnext]; exact hdrop⟩
      rw [List.cons_append] at htake
      rw [segment_name hc hne.1 hne.2, if_pos (isNameStart_iff.2 hfirst), hnext, htake]
  | @literal literal key hliteral =>
      have hnext : c.next.rest = literal ++ rest := rest_next hc
      obtain ⟨d, hquoted, hd⟩ := quoted_complete hliteral hnext
      refine ⟨d, ?_, hd⟩
      obtain ⟨body, rfl, _⟩ := hliteral
      rw [segment_literal hc, hquoted]
      rfl
  | bracket h =>
      obtain ⟨d, hread, hd⟩ := bracket_complete h hc
      refine ⟨d, ?_, hd⟩
      obtain ⟨tail, rfl⟩ := hbracket h
      rw [segment_bracket hc, hread]
  | dotted h =>
      obtain ⟨d, hread, hd⟩ := bracket_complete h (rest_next hc)
      refine ⟨d, ?_, hd⟩
      obtain ⟨tail, rfl⟩ := hbracket h
      rw [segment_dottedBracket hc, hread]

/-- The segments after the first one are read from behind it. -/
theorem segments_of_segment {c d : Cursor} {step : Step} (h : segment c = .ok (step, d)) :
    segments c = (segments d).map (step :: ·) := by
  have hne : c.rest.isEmpty = false := by
    have hlt := length_lt_of_segment h
    cases hrest : c.rest with
    | nil => simp [hrest] at hlt
    | cons => rfl
  rw [segments, if_neg (by simp [hne])]
  split
  · next heq =>
      rw [h] at heq
      cases heq
  · next heq =>
      rw [h] at heq
      cases heq
      rfl

/-- Where no segment can be read, none of the path is. -/
theorem segments_of_error {c : Cursor} {e : SyntaxError} (h : segment c = .error e)
    (hne : c.rest ≠ []) : segments c = .error e := by
  rw [segments, if_neg (by simp [hne])]
  split
  · next heq =>
      rw [h] at heq
      cases heq
      rfl
  · next heq =>
      rw [h] at heq
      cases heq

private theorem segments_sound {c : Cursor} {steps : List Step} (h : segments c = .ok steps) :
    (c.rest = [] ∧ steps = []) ∨ DerivesSegments c.rest steps := by
  fun_induction segments c generalizing steps with
  | case1 c hempty =>
      cases h
      exact .inl ⟨List.isEmpty_iff.1 hempty, rfl⟩
  | case2 => cases h
  | case3 c _ step d hsegment ih =>
      cases hrest : segments d with
      | error e => simp [hrest, Except.map] at h
      | ok others =>
          simp only [hrest, Except.map, Except.ok.injEq] at h
          subst h
          obtain ⟨text, hderives, hleft⟩ := segment_sound hsegment
          rw [hleft]
          rcases ih hrest with ⟨hnil, rfl⟩ | hothers
          · rw [hnil, List.append_nil]
            exact .inr (.one hderives)
          · exact .inr (.more hderives hothers)

private theorem segments_complete {c : Cursor} {text : List Char} {steps : List Step}
    (h : DerivesSegments text steps) (hc : c.rest = text) : segments c = .ok steps := by
  induction h generalizing c with
  | @one text step h =>
      have hnil : Resumes [] := by simp [Resumes]
      have hall : c.rest = text ++ [] := by rw [List.append_nil, hc]
      obtain ⟨d, hread, hd⟩ := segment_complete h hnil hall
      rw [segments_of_segment hread, segments, if_pos (by simp [hd])]
      rfl
  | @more text step rest steps h hrest ih =>
      have hresumes : Resumes rest := by
        intro e he
        rcases hrest.head with hhead | hhead
        · rw [hhead] at he
          cases he
          exact .inl rfl
        · rw [hhead] at he
          cases he
          exact .inr rfl
      obtain ⟨d, hread, hd⟩ := segment_complete h hresumes hc
      rw [segments_of_segment hread, ih hd]
      rfl

/-! ## Paths -/

/-- A dot alone is no segment. -/
private theorem DerivesSegments.ne_dot {text : List Char} {steps : List Step}
    (h : DerivesSegments text steps) : text ≠ ['.'] := by
  have hone : ∀ {text step}, DerivesSegment text step → 2 ≤ text.length := by
    intro text step h
    cases h with
    | name => simp
    | literal hliteral =>
        obtain ⟨body, rfl, _⟩ := hliteral
        simp
    | bracket h => cases h <;> simp <;> omega
    | dotted h => cases h <;> simp
  intro hdot
  have hlength := congrArg List.length hdot
  cases h with
  | one h =>
      have := hone h
      simp at hlength
      omega
  | more h _ =>
      have := hone h
      simp at hlength
      omega

/-- The paths that are read are those of the grammar, with their steps. -/
theorem path_iff {c : Cursor} {steps : List Step} :
    path c = .ok steps ↔ DerivesPath c.rest steps := by
  by_cases hdot : c.rest = ['.']
  · have hpath : path c = .ok [] := by
      unfold path
      simp only [hdot]
    rw [hpath, hdot]
    constructor
    · intro h
      cases h
      exact .identity
    · intro h
      cases h with
      | identity => rfl
      | segments h _ => exact absurd rfl h.ne_dot
  · by_cases hhead : c.rest.head? = some '.'
    · obtain ⟨tail, htail⟩ := List.head?_eq_some_iff.1 hhead
      have hpath : path c = segments c := by
        unfold path
        split
        · next heq => exact absurd heq hdot
        · rfl
        · next hnot => exact absurd htail (hnot tail)
      rw [hpath]
      constructor
      · intro h
        rcases segments_sound h with ⟨hnil, _⟩ | hderives
        · rw [hnil] at htail
          cases htail
        · exact .segments hderives hhead
      · intro h
        generalize hrest : c.rest = text at h
        cases h with
        | identity => exact absurd hrest hdot
        | segments h _ => exact segments_complete h hrest
    · constructor
      · intro h
        unfold path at h
        split at h
        · next heq => exact absurd heq hdot
        · next tail heq => exact absurd (by rw [heq]; rfl) hhead
        · cases h
      · intro h
        exact absurd h.head hhead

end ClusterEvidence.Filter
