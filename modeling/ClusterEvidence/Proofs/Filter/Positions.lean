import ClusterEvidence.Filter.Positions
import ClusterEvidence.Proofs.Filter.Path
import ClusterEvidence.Proofs.Traverse

/-!
# A path is read by its positions

The reader by positions and the reader by cursors are led through a path side by side. `Stands` says
that a position and a cursor mean the same place: the cursor has left what stands in front of it,
which is a whole number of characters and takes up as many bytes as the position says. A cut between
two places that cursors stand at is therefore possible, and what it gives is known.

Single bytes are looked at where no character is known yet. Only bytes of ASCII characters matter
there, and such a byte is found exactly where its character stands.

## Main results

* `piecesFrom_eq`, `pieces_eq` — the pieces that a scan cuts out.
* `quotedAt_agrees`, `bracketAt_agrees` — parts of a segment.
* `turn_agrees`, `turn_dot` — a turn of the loop reads a segment or passes a dot.
* `stepsFrom_agrees`, `pathAt_agrees` — the loop, and a path.
-/

namespace ClusterEvidence.Filter.Positions

open Text (Cursor byteLength encode isBlank)

/-! ## Places of a text -/

/-- A cursor stands at a position of a text that begins at an offset. -/
structure Stands (text : List Char) (offset position : Nat) (c : Cursor) : Prop where
  offset_eq : c.offset = offset + position
  front : ∃ front, text = front ++ c.rest ∧ byteLength front = position

/-- A number is the offset of a place in a text that begins at another offset. -/
def IsPlace (text : List Char) (offset n : Nat) : Prop :=
  ∃ front rest, text = front ++ rest ∧ n = offset + byteLength front

/-- Reading was refused with an error that points into the text. -/
def PointsInto (text : List Char) (offset : Nat) (halt : Halt) (error : SyntaxError) : Prop :=
  halt = .refused error ∧ IsPlace text offset error.offset

variable {α β : Type} {text : List Char} {offset position : Nat} {c : Cursor}

/-- A place of a part of a text is a place of the text. -/
theorem IsPlace.within {before part after : List Char} {n : Nat}
    (h : IsPlace part (offset + byteLength before) n) :
    IsPlace (before ++ part ++ after) offset n := by
  obtain ⟨front, rest, rfl, rfl⟩ := h
  refine ⟨before ++ front, rest ++ after, by simp, ?_⟩
  rw [Text.byteLength_append]
  omega

namespace Stands

theorem start (text : List Char) (offset : Nat) : Stands text offset 0 ⟨offset, text⟩ :=
  ⟨rfl, [], rfl, rfl⟩

private theorem isPlace (h : Stands text offset position c) :
    IsPlace text offset (offset + position) := by
  obtain ⟨front, htext, rfl⟩ := h.front
  exact ⟨front, c.rest, htext, rfl⟩

/-- A refusal where the cursor stands. -/
theorem refuse (h : Stands text offset position c) (R : α → β → Prop) (reason : SyntaxReason) :
    Corresponds R (PointsInto text offset) (Positions.refuse (offset + position) reason)
      (.error ⟨c.offset, reason⟩) := by
  rw [h.offset_eq]
  exact .error ⟨rfl, h.isPlace⟩

theorem cutFrom (h : Stands text offset position c) :
    Positions.cutFrom text position = .ok c.rest := by
  obtain ⟨front, htext, rfl⟩ := h.front
  rw [Positions.cutFrom, htext, Text.sliceFrom?_append]

theorem cut {piece rest : List Char} (h : Stands text offset position c)
    (hrest : c.rest = piece ++ rest) :
    Positions.cut text position (position + byteLength piece) = .ok piece := by
  obtain ⟨front, htext, rfl⟩ := h.front
  rw [Positions.cut, htext, hrest, Text.slice?_append]

theorem past {piece rest : List Char} (h : Stands text offset position c)
    (hrest : c.rest = piece ++ rest) :
    Stands text offset (position + byteLength piece) (c.past piece rest) := by
  obtain ⟨front, htext, rfl⟩ := h.front
  refine ⟨?_, front ++ piece, ?_, Text.byteLength_append _ _⟩
  · rw [Cursor.past, h.offset_eq, Nat.add_assoc]
  · rw [htext, hrest, List.append_assoc]
    rfl

theorem next {d : Char} {rest : List Char} (h : Stands text offset position c)
    (hrest : c.rest = d :: rest) : Stands text offset (position + d.utf8Size) c.next := by
  have hpast : c.past [d] rest = c.next := by
    rw [Cursor.past, Cursor.next, hrest]
    rfl
  have hmoved : Stands text offset (position + byteLength [d]) (c.past [d] rest) := h.past hrest
  rwa [hpast] at hmoved

theorem skip (h : Stands text offset position c) (p : Char → Bool) :
    Stands text offset (position + byteLength (c.rest.takeWhile p)) (c.skip p) :=
  h.past List.takeWhile_append_dropWhile.symm

/-- Text is left exactly at the places in front of the end. -/
private theorem rest_ne_nil_iff (h : Stands text offset position c) :
    c.rest ≠ [] ↔ position < byteLength text := by
  obtain ⟨front, htext, rfl⟩ := h.front
  rw [htext, Text.byteLength_append]
  cases c.rest with
  | nil => simp
  | cons d rest =>
      have hpos : 0 < d.utf8Size := d.utf8Size_pos
      rw [Text.byteLength_cons]
      simp only [ne_eq, reduceCtorEq, not_false_eq_true, true_iff]
      omega

end Stands

/-! ## Pieces -/

theorem byteLength_concat (text : List Char) (c : Char) :
    byteLength (text ++ [c]) = byteLength text + c.utf8Size := by
  rw [Text.byteLength_append]
  rfl

/-- A scan cuts out the pieces that are found without positions. The piece that it is in begins
behind `front`, and the scan stands behind `piece`. -/
theorem piecesFrom_eq {separator : Char} (hsize : separator.utf8Size = 1) {source : List Char}
    (quoting : Quoting) (front piece rest : List Char)
    (hsource : source = front ++ (piece ++ rest)) :
    piecesFrom separator source quoting (byteLength front) (byteLength front + byteLength piece)
        rest =
      .ok (cursors (byteLength front) (prepend piece (cutOutside separator quoting rest))) := by
  induction rest generalizing quoting front piece with
  | nil =>
      rw [List.append_nil] at hsource
      rw [piecesFrom, Positions.cutFrom, hsource, Text.sliceFrom?_append]
      simp [cutOutside, prepend, cursors, bind, Except.bind]
  | cons c rest ih =>
      rw [piecesFrom]
      by_cases hcut : quoting = .outside ∧ c = separator
      · obtain ⟨rfl, rfl⟩ := hcut
        have hpiece : Positions.cut source (byteLength front)
            (byteLength front + byteLength piece) = .ok piece := by
          rw [Positions.cut, hsource, Text.slice?_append]
        have hothers := ih .outside (front ++ piece ++ [c]) [] (by simp [hsource])
        rw [byteLength_concat, Text.byteLength_append, Text.byteLength_nil, Nat.add_zero,
          prepend_nil] at hothers
        rw [if_pos ⟨rfl, rfl⟩, hpiece, hothers, cutOutside_separator, prepend, List.append_nil,
          cursors, hsize]
        rfl
      · have hrest := ih (quoting.next c) front (piece ++ [c]) (by simp [hsource])
        rw [byteLength_concat, ← Nat.add_assoc] at hrest
        rw [if_neg hcut, hrest, cutOutside_cons hcut, prepend_prepend]

/-- The pieces of a text are cut out as they are found without positions. -/
theorem pieces_eq {separator : Char} (hsize : separator.utf8Size = 1) (source : List Char) :
    pieces separator source = .ok (cursors 0 (cutOutside separator .outside source)) := by
  have hall := piecesFrom_eq hsize .outside [] [] source rfl
  rwa [prepend_nil] at hall

/-! ## String literals -/

/-- The closing quote is found where the literal ends. -/
private theorem closingQuote?_eq (escaped : Bool) (text : List Char) :
    (closingQuote? escaped text).map (· + 1) =
      (scanQuoted escaped text).map fun found => byteLength found.1 := by
  induction text generalizing escaped with
  | nil => cases escaped <;> rfl
  | cons c text ih =>
      have hrest (escaped : Bool) :
          ((closingQuote? escaped text).map (c.utf8Size + ·)).map (· + 1) =
            ((scanQuoted escaped text).map fun found => (c :: found.1, found.2)).map
              fun found => byteLength found.1 := by
        have hbody := congrArg (Option.map (c.utf8Size + ·)) (ih escaped)
        simpa only [Option.map_map, Function.comp_def, Nat.add_assoc,
          Text.byteLength_cons] using hbody
      cases escaped with
      | true => exact hrest false
      | false =>
          rw [closingQuote?, scanQuoted]
          split
          · next hquote =>
              subst hquote
              rfl
          · exact hrest _

/-- What was read belongs together: the same, up to the same place. -/
def Reads (text : List Char) (offset : Nat) (x : α × Nat) (y : α × Cursor) : Prop :=
  x.1 = y.1 ∧ Stands text offset x.2 y.2

theorem quotedAt_agrees {tail : List Char} (h : Stands text offset position c)
    (hc : c.rest = '"' :: tail) :
    Corresponds (Reads text offset) (PointsInto text offset) (quotedAt text position offset)
      (quoted c) := by
  have hbody : cutFrom text (position + 1) = .ok tail := by
    have hnext := (h.next hc).cutFrom
    rwa [rest_next hc] at hnext
  have hclosing := closingQuote?_eq false tail
  unfold quotedAt quoted
  rw [hbody, hc, List.drop_one, List.tail_cons]
  simp only [bind, Except.bind]
  cases hscan : scanQuoted false tail with
  | none =>
      rw [hscan, Option.map_none, Option.map_eq_none_iff] at hclosing
      simp only [hclosing]
      exact h.refuse _ _
  | some found =>
      obtain ⟨body, rest⟩ := found
      rw [hscan, Option.map_some, Option.map_eq_some_iff] at hclosing
      obtain ⟨length, hlength, hone⟩ := hclosing
      obtain ⟨inner, rfl, rfl, _⟩ := exists_inner_of_scanQuoted hscan
      have hliteral : c.rest = '"' :: (inner ++ ['"']) ++ rest := by simp [hc]
      have hstop : position + 1 + length + 1 =
          position + byteLength ('"' :: (inner ++ ['"'])) := by
        have hquote : ('"' : Char).utf8Size = 1 := rfl
        have hbodyLength : length + 1 = byteLength (inner ++ ['"']) := hone
        rw [Text.byteLength_cons, hquote]
        omega
      simp only [hlength, hstop, h.cut hliteral]
      cases stringOfLiteral ('"' :: (inner ++ ['"'])) with
      | error fault => exact h.refuse _ _
      | ok key => exact .ok ⟨rfl, h.past hliteral⟩

/-! ## Brackets -/

private theorem closeAt_agrees (h : Stands text offset position c) (step : Step) :
    Corresponds (Reads text offset) (PointsInto text offset) (closeAt text step position offset)
      (closeBracket step c) := by
  have hskip := h.skip isBlank
  unfold closeAt closeBracket
  simp only [h.cutFrom, bind, Except.bind, Text.byteLength_sub_trimStart, hskip.cutFrom]
  split
  · next hhead =>
      obtain ⟨rest, hrest⟩ := List.head?_eq_some_iff.1 hhead
      simp only [hrest]
      exact .ok ⟨rfl, hskip.next hrest⟩
  · next hhead =>
      split
      · next rest hrest => exact absurd (by rw [hrest]; rfl) hhead
      · exact hskip.refuse _ _

/-- A key in a bracket is read as a string literal. -/
private theorem keyAt_of_quote {tail : List Char} (h : Stands text offset position c)
    (hc : c.rest = '"' :: tail) :
    Corresponds (Reads text offset) (PointsInto text offset) (keyAt text c.rest position offset)
      ((quoted c).map fun (key, d) => (.field key, d)) := by
  have hquoted := quotedAt_agrees h hc
  unfold keyAt
  rw [if_pos (by rw [hc]; rfl)]
  generalize quotedAt text position offset = x at hquoted ⊢
  generalize quoted c = y at hquoted ⊢
  cases hquoted with
  | ok hreads => exact .ok ⟨congrArg Step.field hreads.1, hreads.2⟩
  | error herror => exact .error herror

/-- What else stands in a bracket is read as an index. -/
private theorem keyAt_of_ne_quote (h : Stands text offset position c)
    (hc : c.rest.head? ≠ some '"') :
    Corresponds (Reads text offset) (PointsInto text offset) (keyAt text c.rest position offset)
      (match index? (c.rest.takeWhile isIndexChar) with
        | some index => .ok (.index index, c.skip isIndexChar)
        | none => .error ⟨c.offset, .expectedIndexOrKey⟩) := by
  have hrun : c.rest = c.rest.takeWhile isIndexChar ++ c.rest.dropWhile isIndexChar :=
    List.takeWhile_append_dropWhile.symm
  have hdigits : cut c.rest 0 (byteLength (c.rest.takeWhile isIndexChar)) =
      .ok (c.rest.takeWhile isIndexChar) := by
    have hcut := (Stands.start c.rest 0).cut hrun
    rwa [Nat.zero_add] at hcut
  unfold keyAt
  rw [if_neg hc]
  simp only [hdigits, bind, Except.bind]
  cases index? (c.rest.takeWhile isIndexChar) with
  | none => exact h.refuse _ _
  | some index => exact .ok ⟨rfl, h.skip isIndexChar⟩

theorem bracketAt_agrees {tail : List Char} (h : Stands text offset position c)
    (hc : c.rest = '[' :: tail) :
    Corresponds (Reads text offset) (PointsInto text offset) (bracketAt text position offset)
      (bracket c) := by
  have hopen : ('[' : Char).utf8Size = 1 := rfl
  have hnext := h.next hc
  rw [hopen] at hnext
  have hinner := hnext.skip isBlank
  have hrest : Text.trimStart c.next.rest = (c.next.skip isBlank).rest := rfl
  unfold bracketAt bracket
  rw [hnext.cutFrom]
  dsimp only [bind, Except.bind]
  rw [Text.byteLength_sub_trimStart, hrest]
  generalize c.next.skip isBlank = d at *
  generalize position + 1 + byteLength (c.next.rest.takeWhile isBlank) = start at *
  split
  · next hhead =>
      obtain ⟨rest, hd⟩ := List.head?_eq_some_iff.1 hhead
      simp only [hd]
      exact .ok ⟨rfl, hinner.next hd⟩
  · next hhead =>
      have hclose : ∀ y, Corresponds (Reads text offset) (PointsInto text offset)
          (keyAt text d.rest start offset) y →
          Corresponds (Reads text offset) (PointsInto text offset)
            (keyAt text d.rest start offset >>= fun x => closeAt text x.1 x.2 offset)
            (y >>= fun z => closeBracket z.1 z.2) := by
        intro y hkey
        apply hkey.bind
        rintro ⟨step, stop⟩ ⟨_, e⟩ ⟨rfl, hstands⟩
        exact closeAt_agrees hstands step
      show Corresponds _ _
        (keyAt text d.rest start offset >>= fun x => closeAt text x.1 x.2 offset) _
      by_cases hquote : d.rest.head? = some '"'
      · obtain ⟨rest, hd⟩ := List.head?_eq_some_iff.1 hquote
        have hkey := hclose _ (keyAt_of_quote hinner hd)
        generalize keyAt text d.rest start offset >>= (fun x => closeAt text x.1 x.2 offset) = x
          at hkey ⊢
        simp only [hd]
        cases hquoted : quoted d with
        | error e =>
            rw [hquoted] at hkey
            exact hkey
        | ok found =>
            rw [hquoted] at hkey
            exact hkey
      · have hkey := hclose _ (keyAt_of_ne_quote hinner hquote)
        generalize keyAt text d.rest start offset >>= (fun x => closeAt text x.1 x.2 offset) = x
          at hkey ⊢
        split
        · next rest hd => exact absurd (by rw [hd]; rfl) hhead
        · next rest hd => exact absurd (by rw [hd]; rfl) hquote
        · cases hindex : index? (d.rest.takeWhile isIndexChar) with
          | none =>
              rw [hindex] at hkey
              exact hkey
          | some index =>
              rw [hindex] at hkey
              exact hkey

/-! ## Bytes -/

/-- The byte at a position is the first one of what stands there. -/
theorem Stands.byteAt? (h : Stands text offset position c) :
    byteAt? text position = (encode c.rest).head? := by
  obtain ⟨front, htext, rfl⟩ := h.front
  rw [Positions.byteAt?, htext, Text.encode_append,
    List.getElem?_append_right (Nat.le_of_eq (Text.length_encode front)), Text.length_encode,
    Nat.sub_self, List.head?_eq_getElem?]

/-- An ASCII character stands where its byte does. -/
private theorem head?_encode_eq_some_iff {a : Char} (ha : a.toNat < 0x80) {rest : List Char} :
    (encode rest).head? = some (byteOf a) ↔ rest.head? = some a := by
  have hbyte : (byteOf a).toNat = a.toNat := Text.toNat_byte (by omega)
  cases rest with
  | nil => simp
  | cons d rest =>
      obtain ⟨b, more, hd, _, hself⟩ := Text.exists_utf8EncodeChar d
      rw [Text.encode_cons, hd, List.cons_append, List.head?_cons, List.head?_cons,
        Option.some.injEq, Option.some.injEq]
      constructor
      · rintro rfl
        have hnat := (hself (.inr (by omega))).1
        exact Char.toNat_inj.1 (hnat.trans hbyte)
      · rintro rfl
        have hnat := (hself (.inl ha)).1
        exact UInt8.toNat_inj.1 (hnat.symm.trans hbyte.symm)

theorem Stands.byteAt?_eq_some_iff (h : Stands text offset position c) {a : Char}
    (ha : a.toNat < 0x80) :
    Positions.byteAt? text position = some (byteOf a) ↔ c.rest.head? = some a := by
  rw [h.byteAt?]
  exact head?_encode_eq_some_iff ha

/-- The first byte of a character is of a class of ASCII characters when the character is. -/
private theorem class_of_firstByte {p : Char → Bool} (hp : ∀ c, p c = true → c.toNat < 0x80)
    {d : Char} {b : UInt8} {more : Bytes} (hd : String.utf8EncodeChar d = b :: more) :
    p (Char.ofNat b.toNat) = p d := by
  obtain ⟨b', more', hd', _, hself⟩ := Text.exists_utf8EncodeChar d
  obtain ⟨rfl, rfl⟩ := List.cons.inj (hd.symm.trans hd')
  by_cases hascii : d.toNat < 0x80
  · rw [← (hself (.inl hascii)).1, Char.ofNat_toNat]
  · have hbyte : ¬ b.toNat < 0x80 := fun hlt => hascii ((hself (.inr hlt)).1 ▸ hlt)
    have hnat : (Char.ofNat b.toNat).toNat = b.toNat := by
      have hvalid : b.toNat.isValidChar := .inl (Nat.lt_trans b.toNat_lt (by decide))
      rw [Char.ofNat, dif_pos hvalid]
      rfl
    rw [Bool.eq_false_iff.2 fun h => hascii (hp d h),
      Bool.eq_false_iff.2 fun h => hbyte (hnat ▸ hp _ h)]

/-- A run of ASCII characters of a class takes up the leading run of their bytes. -/
private theorem length_takeWhile_encode {p : Char → Bool} (hp : ∀ c, p c = true → c.toNat < 0x80)
    (rest : List Char) :
    ((encode rest).takeWhile fun b => p (Char.ofNat b.toNat)).length =
      byteLength (rest.takeWhile p) := by
  induction rest with
  | nil => rfl
  | cons d rest ih =>
      obtain ⟨b, more, hd, _, hself⟩ := Text.exists_utf8EncodeChar d
      have hclass := class_of_firstByte hp hd
      rw [Text.encode_cons, hd, List.cons_append]
      by_cases hpd : p d = true
      · obtain ⟨_, rfl⟩ := hself (.inl (hp d hpd))
        have hsize : d.utf8Size = 1 := by
          rw [← String.length_utf8EncodeChar, hd]
          rfl
        rw [List.nil_append, List.takeWhile_cons, hclass, hpd, if_pos rfl, List.length_cons, ih,
          List.takeWhile_cons, hpd, if_pos rfl, Text.byteLength_cons, hsize, Nat.add_comm]
      · have hfalse : p d = false := Bool.eq_false_iff.2 hpd
        rw [List.takeWhile_cons, hclass, hfalse, List.takeWhile_cons, hfalse]
        rfl

private theorem Stands.nameEnd (h : Stands text offset position c) :
    nameEnd text position = position + byteLength (c.rest.takeWhile isNameChar) := by
  have hascii (d : Char) (hd : isNameChar d = true) : d.toNat < 0x80 := by
    have := visible_isNameChar d hd
    omega
  obtain ⟨front, htext, rfl⟩ := h.front
  rw [Positions.nameEnd, htext, Text.encode_append, ← Text.length_encode, List.drop_left,
    Text.length_encode]
  exact congrArg _ (length_takeWhile_encode hascii c.rest)

/-! ## Turns -/

/-- A dot in front of a bracket is passed. -/
theorem turn_dot {tail : List Char} (h : Stands text offset position c)
    (hc : c.rest = '.' :: '[' :: tail) (first : Bool) :
    turn text offset position first = .ok (none, position + 1) := by
  have hdot : byteAt? text position = some (byteOf '.') :=
    (h.byteAt?_eq_some_iff (by decide)).2 (by rw [hc]; rfl)
  have hbracket : byteAt? text (position + 1) = some (byteOf '[') :=
    ((h.next hc).byteAt?_eq_some_iff (by decide)).2 (by rw [rest_next hc]; rfl)
  have hne : byteOf '[' ≠ byteOf '"' := by decide
  unfold turn
  rw [if_pos hdot, hbracket]
  simp only [hne, if_false, if_true]

/-- What is read in a turn: a step, up to the same place. -/
def ReadsStep (text : List Char) (offset : Nat) (x : Option Step × Nat) (y : Step × Cursor) :
    Prop :=
  x.1 = some y.1 ∧ Stands text offset x.2 y.2

/-- What a turn does behind a dot, by the character that stands there. -/
private theorem turn_behindDot {d : Char} {tail : List Char} (h : Stands text offset position c)
    (hc : c.rest = '.' :: d :: tail) (hopen : d ≠ '[') (first : Bool) :
    turn text offset position first =
      if d = '"' then
        (quotedAt text (position + 1) offset).map fun found => (some (.field found.1), found.2)
      else if isNameStart d then
        .ok (some (.field (String.ofList (c.next.rest.takeWhile isNameChar))),
          position + 1 + byteLength (c.next.rest.takeWhile isNameChar))
      else refuse (offset + (position + 1)) .expectedFieldName := by
  have hdot : byteAt? text position = some (byteOf '.') :=
    (h.byteAt?_eq_some_iff (by decide)).2 (by rw [hc]; rfl)
  have hnext : Stands text offset (position + 1) c.next := h.next hc
  have hrest : c.next.rest = d :: tail := rest_next hc
  obtain ⟨b, more, hd, _, _⟩ := Text.exists_utf8EncodeChar d
  have hbyte : byteAt? text (position + 1) = some b := by
    rw [hnext.byteAt?, hrest, Text.encode_cons, hd]
    rfl
  have hchar {a : Char} (ha : a.toNat < 0x80) : b = byteOf a ↔ d = a := by
    have hiff := hnext.byteAt?_eq_some_iff ha
    rwa [hbyte, hrest, List.head?_cons, Option.some.injEq, Option.some.injEq] at hiff
  have hquote := hchar (a := '"') (by decide)
  have hbracket := hchar (a := '[') (by decide)
  have hname : isNameStartByte b = isNameStart d := by
    refine class_of_firstByte (fun e he => ?_) hd
    have := visible_isNameChar e (isNameChar_of_isNameStart he)
    omega
  have hcut := hnext.cut (List.takeWhile_append_dropWhile (p := isNameChar)).symm
  unfold turn
  rw [if_pos hdot, hbyte, hnext.nameEnd]
  simp only [hquote, hbracket, hopen, hname, hcut, if_false]
  rfl

/-- Behind a dot a turn reads what a segment does. -/
private theorem turn_agrees_dot {tail : List Char} {first : Bool}
    (h : Stands text offset position c)
    (hc : c.rest = '.' :: tail) (hbracket : tail.head? ≠ some '[')
    (hfirst : first = false ∨ tail ≠ []) :
    Corresponds (ReadsStep text offset) (PointsInto text offset) (turn text offset position first)
      (segment c) := by
  have hnext : Stands text offset (position + 1) c.next := h.next hc
  cases tail with
  | nil =>
      obtain rfl : first = false := by simpa using hfirst
      have hdot : byteAt? text position = some (byteOf '.') :=
        (h.byteAt?_eq_some_iff (by decide)).2 (by rw [hc]; rfl)
      have hend : byteAt? text (position + 1) = none := by
        rw [hnext.byteAt?, rest_next hc]
        rfl
      unfold turn segment
      rw [if_pos hdot, hend, hc]
      exact hnext.refuse _ _
  | cons d tail =>
      have hopen : d ≠ '[' := by simpa using hbracket
      rw [turn_behindDot h hc hopen]
      by_cases hquote : d = '"'
      · subst hquote
        rw [if_pos rfl, segment_literal hc]
        have hquoted := quotedAt_agrees hnext (rest_next hc)
        exact hquoted.map fun a b hreads => ⟨congrArg (some ∘ Step.field) hreads.1, hreads.2⟩
      · rw [if_neg hquote, segment_name hc hquote hopen]
        split
        · exact .ok ⟨rfl, hnext.skip isNameChar⟩
        · exact hnext.refuse _ _

/-- Where no dot stands, a turn reads what a segment does. -/
private theorem turn_agrees_other {first : Bool} (h : Stands text offset position c)
    (hc : c.rest.head? ≠ some '.') :
    Corresponds (ReadsStep text offset) (PointsInto text offset) (turn text offset position first)
      (segment c) := by
  have hdot := h.byteAt?_eq_some_iff (a := '.') (by decide)
  have hbyte := h.byteAt?_eq_some_iff (a := '[') (by decide)
  unfold turn segment
  rw [if_neg fun heq => hc (hdot.1 heq)]
  by_cases hopen : c.rest.head? = some '['
  · obtain ⟨tail, htail⟩ := List.head?_eq_some_iff.1 hopen
    have hbracket := bracketAt_agrees h htail
    rw [if_pos (hbyte.2 hopen)]
    simp only [htail]
    generalize bracketAt text position offset = x at hbracket ⊢
    generalize bracket c = y at hbracket ⊢
    cases hbracket with
    | ok hreads => exact .ok ⟨congrArg some hreads.1, hreads.2⟩
    | error herror => exact .error herror
  · rw [if_neg fun heq => hopen (hbyte.1 heq), h.cutFrom]
    split
    · next heq => exact absurd (by rw [heq]; rfl) hc
    · next heq => exact absurd (by rw [heq]; rfl) hopen
    · exact h.refuse _ _

/-! ## Paths -/

/-- A dot in front of a bracket is part of the bracket's segment. -/
private theorem segments_dot {tail : List Char} (hc : c.rest = '.' :: '[' :: tail) :
    segments c = segments c.next := by
  have hrest : c.next.rest = '[' :: tail := rest_next hc
  have hsegment : segment c = segment c.next := by
    rw [segment_dottedBracket hc, segment_bracket hrest]
  cases hread : segment c with
  | error e =>
      rw [segments_of_error hread (by simp [hc]),
        segments_of_error (hsegment.symm.trans hread) (by simp [hrest])]
  | ok found =>
      rw [segments_of_segment hread, segments_of_segment (hsegment.symm.trans hread)]

/-- A turn reads what a segment does, unless it only passes a dot. -/
theorem turn_agrees (first : Bool) (h : Stands text offset position c)
    (hbracket : ∀ tail, c.rest ≠ '.' :: '[' :: tail) (hfirst : first = false ∨ c.rest ≠ ['.']) :
    Corresponds (ReadsStep text offset) (PointsInto text offset) (turn text offset position first)
      (segment c) := by
  by_cases hdot : c.rest.head? = some '.'
  · obtain ⟨tail, hc⟩ := List.head?_eq_some_iff.1 hdot
    apply turn_agrees_dot h hc
    · intro hopen
      obtain ⟨inner, rfl⟩ := List.head?_eq_some_iff.1 hopen
      exact hbracket inner hc
    · apply hfirst.imp_right
      rintro hne rfl
      exact hne hc
  · exact turn_agrees_other h hdot

theorem stepsFrom_of_error {done : List Step} {halt : Halt} (hlt : position < byteLength text)
    (h : turn text offset position done.isEmpty = .error halt) :
    stepsFrom text offset position done = .error halt := by
  rw [stepsFrom, if_pos hlt]
  split
  · next heq =>
      cases h.symm.trans heq
      rfl
  · next heq => cases h.symm.trans heq

theorem stepsFrom_of_turn {done : List Step} {step : Option Step} {stop : Nat}
    (hlt : position < byteLength text)
    (h : turn text offset position done.isEmpty = .ok (step, stop)) :
    stepsFrom text offset position done = stepsFrom text offset stop (done ++ step.toList) := by
  rw [stepsFrom, if_pos hlt]
  split
  · next heq => cases h.symm.trans heq
  · next heq =>
      cases h.symm.trans heq
      rfl

/-- The loop reads the segments that are left, behind those that it has read. -/
theorem stepsFrom_agrees (position : Nat) (done : List Step) (c : Cursor)
    (h : Stands text offset position c) (hdone : done ≠ [] ∨ c.rest ≠ ['.']) :
    Corresponds Eq (PointsInto text offset) (stepsFrom text offset position done)
      ((segments c).map (done ++ ·)) := by
  fun_induction stepsFrom text offset position done generalizing c with
  | case1 position done hlt halt hturn =>
      have hbracket : ∀ tail, c.rest ≠ '.' :: '[' :: tail := by
        intro tail hc
        rw [turn_dot h hc] at hturn
        cases hturn
      have hne : c.rest ≠ [] := h.rest_ne_nil_iff.2 hlt
      have hagrees := turn_agrees done.isEmpty h hbracket
        (hdone.imp_left (by simp))
      rw [hturn] at hagrees
      cases hsegment : segment c with
      | ok found =>
          rw [hsegment] at hagrees
          cases hagrees
      | error e =>
          rw [hsegment] at hagrees
          rw [segments_of_error hsegment hne]
          cases hagrees with
          | error herror => exact .error herror
  | case2 position done hlt step stop hturn ih =>
      by_cases hdot : ∃ tail, c.rest = '.' :: '[' :: tail
      · obtain ⟨tail, hc⟩ := hdot
        rw [turn_dot h hc] at hturn
        cases hturn
        rw [segments_dot hc]
        have hrest := ih c.next (h.next hc) (.inr (by simp [rest_next hc]))
        rw [Option.toList_none, List.append_nil] at hrest ⊢
        exact hrest
      · have hbracket : ∀ tail, c.rest ≠ '.' :: '[' :: tail := fun tail hc => hdot ⟨tail, hc⟩
        have hagrees := turn_agrees done.isEmpty h hbracket
          (hdone.imp_left (by simp))
        rw [hturn] at hagrees
        cases hsegment : segment c with
        | error e =>
            rw [hsegment] at hagrees
            cases hagrees
        | ok found =>
            obtain ⟨read, d⟩ := found
            rw [hsegment] at hagrees
            cases hagrees with
            | ok hreads =>
                obtain ⟨rfl, hstands⟩ := hreads
                have hrest := ih d hstands (.inl (by simp))
                have hsteps : ((segments d).map (read :: ·)).map (done ++ ·) =
                    (segments d).map (done ++ [read] ++ ·) := by
                  cases segments d <;> simp [Except.map]
                rw [segments_of_segment hsegment, hsteps]
                exact hrest
  | case3 position done hlt =>
      have hnil : c.rest = [] := Classical.byContradiction fun hne => hlt (h.rest_ne_nil_iff.1 hne)
      rw [segments, if_pos (by simp [hnil])]
      exact .ok (by simp)

/-- A dot alone has no steps. -/
private theorem stepsFrom_identity (offset : Nat) : stepsFrom ['.'] offset 0 [] = .ok [] := by
  have hturn : turn ['.'] offset 0 true = .ok (none, 1) := rfl
  rw [stepsFrom_of_turn (by decide) hturn, stepsFrom, if_neg (by decide)]
  rfl

theorem pathAt_agrees (text : List Char) (offset : Nat) :
    Corresponds Eq (PointsInto text offset) (pathAt text offset) (path ⟨offset, text⟩) := by
  have hstart := Stands.start text offset
  have hdot := hstart.byteAt?_eq_some_iff (a := '.') (by decide)
  unfold pathAt path
  split
  · next hbyte =>
      obtain ⟨tail, htail⟩ := List.head?_eq_some_iff.1 (hdot.1 hbyte)
      obtain rfl : text = '.' :: tail := htail
      cases tail with
      | nil =>
          rw [stepsFrom_identity]
          exact .ok rfl
      | cons d tail =>
          have hsteps := stepsFrom_agrees 0 [] ⟨offset, '.' :: d :: tail⟩ hstart (.inr (by simp))
          have hmap : (segments ⟨offset, '.' :: d :: tail⟩).map ([] ++ ·) =
              segments ⟨offset, '.' :: d :: tail⟩ := by
            cases segments ⟨offset, '.' :: d :: tail⟩ <;> rfl
          rwa [hmap] at hsteps
  · next hbyte =>
      have hhead : text.head? ≠ some '.' := fun heq => hbyte (hdot.2 heq)
      split
      · next heq => exact absurd (congrArg List.head? heq) hhead
      · next heq => exact absurd (congrArg List.head? heq) hhead
      · exact hstart.refuse _ _

end ClusterEvidence.Filter.Positions
