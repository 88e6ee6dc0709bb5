import ClusterEvidence.Proofs.Filter.Parser
import ClusterEvidence.Proofs.Filter.Positions

/-!
# Errors of a filter point into its text

The reader by positions and the reader by cursors are led through the stages of a filter side by
side. What one of them refuses the other refuses as well, and the offset is that of a place of the
text; the cut of the reader by positions is never an impossible one. A place of a part is a place of
the whole, which is how an offset that is a sum of positions stays inside.

The reader by positions adds the offset of its path to a position only when it refuses, so that a
text behind some more bytes is read in the same way, with its errors moved (`stageAt_behind`). By
agreement the same holds of the reader by cursors.

## Main results

* `Positions.parse_eq` — both readers agree.
* `stage_behind`, `mapAll_stage_append` — stages behind more text, and behind another filter.
* `parse_pointsIntoSource` — errors lie at character boundaries of the text and move with it.
-/

namespace ClusterEvidence.Filter

open Text (Cursor byteLength isBlank)

/-! ## Behind more text -/

/-- The error of a text that stands behind some more bytes. -/
def SyntaxError.behind (k : Nat) (e : SyntaxError) : SyntaxError :=
  { e with offset := k + e.offset }

namespace Positions

variable {α : Type} (k : Nat)

/-- The halt of a text that stands behind some more bytes. -/
def Halt.behind : Halt → Halt
  | .outside => .outside
  | .refused e => .refused (e.behind k)

theorem refuse_behind (offset position : Nat) (reason : SyntaxReason) :
    (refuse (k + offset + position) reason : Except Halt α) =
      (refuse (offset + position) reason).mapError (Halt.behind k) := by
  rw [Nat.add_assoc]
  rfl

theorem cut_behind (text : List Char) (start stop : Nat) :
    (cut text start stop).mapError (Halt.behind k) = cut text start stop := by
  unfold cut
  split <;> rfl

theorem cutFrom_behind (text : List Char) (start : Nat) :
    (cutFrom text start).mapError (Halt.behind k) = cutFrom text start := by
  unfold cutFrom
  split <;> rfl

private theorem quotedAt_behind (text : List Char) (position offset : Nat) :
    quotedAt text position (k + offset) =
      (quotedAt text position offset).mapError (Halt.behind k) := by
  unfold quotedAt
  rw [mapError_bind, cutFrom_behind]
  apply bind_congr
  intro body
  cases closingQuote? false body with
  | none => exact refuse_behind k offset position _
  | some length =>
      dsimp only
      rw [mapError_bind, cut_behind]
      apply bind_congr
      intro literal
      cases stringOfLiteral literal with
      | ok key => rfl
      | error fault => exact refuse_behind k offset position _

private theorem keyAt_behind (text inner : List Char) (position offset : Nat) :
    keyAt text inner position (k + offset) =
      (keyAt text inner position offset).mapError (Halt.behind k) := by
  unfold keyAt
  split
  · rw [mapError_bind, quotedAt_behind]
    rfl
  · rw [mapError_bind, cut_behind]
    apply bind_congr
    intro digits
    cases index? digits with
    | some index => rfl
    | none => exact refuse_behind k offset position _

private theorem closeAt_behind (text : List Char) (step : Step) (position offset : Nat) :
    closeAt text step position (k + offset) =
      (closeAt text step position offset).mapError (Halt.behind k) := by
  unfold closeAt
  rw [mapError_bind, cutFrom_behind]
  apply bind_congr
  intro tail
  dsimp only
  rw [mapError_bind, cutFrom_behind]
  apply bind_congr
  intro rest
  split
  · rfl
  · exact refuse_behind k offset _ _

private theorem bracketAt_behind (text : List Char) (position offset : Nat) :
    bracketAt text position (k + offset) =
      (bracketAt text position offset).mapError (Halt.behind k) := by
  unfold bracketAt
  rw [mapError_bind, cutFrom_behind]
  apply bind_congr
  intro rest
  dsimp only
  split
  · rfl
  · rw [mapError_bind, keyAt_behind]
    apply bind_congr
    intro found
    exact closeAt_behind k text found.1 found.2 offset

private theorem turn_behind (text : List Char) (offset position : Nat) (first : Bool) :
    turn text (k + offset) position first =
      (turn text offset position first).mapError (Halt.behind k) := by
  unfold turn
  split
  · split
    · split
      · rfl
      · exact refuse_behind k offset _ _
    · split
      · rw [mapError_bind, quotedAt_behind]
        rfl
      · split
        · rfl
        · split
          · dsimp only
            rw [mapError_bind, cut_behind]
            rfl
          · exact refuse_behind k offset _ _
  · split
    · rw [mapError_bind, bracketAt_behind]
      rfl
    · rw [mapError_bind, cutFrom_behind]
      apply bind_congr
      intro found
      exact refuse_behind k offset _ _

private theorem stepsFrom_behind (text : List Char) (offset position : Nat) (done : List Step) :
    stepsFrom text (k + offset) position done =
      (stepsFrom text offset position done).mapError (Halt.behind k) := by
  fun_induction stepsFrom text offset position done with
  | case1 position done hlt halt hturn =>
      have hbehind := turn_behind k text offset position done.isEmpty
      rw [hturn] at hbehind
      exact stepsFrom_of_error hlt hbehind
  | case2 position done hlt step stop hturn ih =>
      have hbehind := turn_behind k text offset position done.isEmpty
      rw [hturn] at hbehind
      rw [← ih]
      exact stepsFrom_of_turn hlt hbehind
  | case3 position done hlt =>
      rw [stepsFrom, if_neg hlt]
      rfl

private theorem pathAt_behind (text : List Char) (offset : Nat) :
    pathAt text (k + offset) = (pathAt text offset).mapError (Halt.behind k) := by
  unfold pathAt
  split
  · exact stepsFrom_behind k text offset 0 []
  · exact refuse_behind k offset 0 _

/-- A stage is read in the same way wherever it stands. -/
theorem stageAt_behind (c : Cursor) :
    stageAt { c with offset := k + c.offset } = (stageAt c).mapError (Halt.behind k) := by
  unfold stageAt
  dsimp only
  rw [Nat.add_assoc]
  generalize c.offset + (byteLength c.rest - byteLength (Text.trimStart c.rest)) = offset
  split
  · rfl
  · rw [pieces_eq rfl]
    show _ = Except.mapError _ _
    dsimp only [bind, Except.bind]
    split
    · rw [pathAt_behind, mapError_map]
    · split
      · exact refuse_behind k offset _ _
      · next left right _ _ =>
          show (_ >>= _) = Except.mapError (Halt.behind k) (_ >>= _)
          rw [mapError_bind, pathAt_behind]
          apply bind_congr
          intro steps
          cases Json.readString (String.ofList (Text.trim right.rest)) with
          | ok value => rfl
          | error fault => exact refuse_behind k offset _ _
    · exact refuse_behind k offset 0 _

/-! ## Stages and filters -/

private theorem PointsInto.within {before part after : List Char} {offset : Nat} {halt : Halt}
    {e : SyntaxError} (h : PointsInto part (offset + byteLength before) halt e) :
    PointsInto (before ++ part ++ after) offset halt e :=
  ⟨h.1, h.2.within⟩

private theorem exists_trim_skip (c : Cursor) :
    ∃ tail, c.rest = c.rest.takeWhile isBlank ++ Text.trim c.rest ++ tail := by
  obtain ⟨tail, hrest, _⟩ := Text.exists_trimEnd (Text.trimStart c.rest)
  refine ⟨tail, ?_⟩
  rw [Text.trim, List.append_assoc, ← hrest, Text.trimStart, List.takeWhile_append_dropWhile]

/-- The path on one side of a stage points into the stage. -/
private theorem pathAt_trimEnd_agrees (left rest : List Char) (offset : Nat) :
    Corresponds Eq (PointsInto (left ++ rest) offset) (pathAt (Text.trimEnd left) offset)
      (path ⟨offset, Text.trimEnd left⟩) := by
  obtain ⟨tail, hleft, _⟩ := Text.exists_trimEnd left
  apply (pathAt_agrees (Text.trimEnd left) offset).imp_error
  intro halt e h
  have hall : left ++ rest = [] ++ Text.trimEnd left ++ (tail ++ rest) := by
    rw [List.nil_append, ← List.append_assoc, ← hleft]
  rw [hall]
  exact PointsInto.within h

private theorem stageAt_agrees (c : Cursor) :
    Corresponds Eq (PointsInto c.rest c.offset) (stageAt c) (stage c) := by
  obtain ⟨tail, hrest⟩ := exists_trim_skip c
  have hoffset : (c.skip isBlank).offset = c.offset + byteLength (c.rest.takeWhile isBlank) := rfl
  have htext : Text.trimEnd (c.skip isBlank).rest = Text.trim c.rest := rfl
  -- What points into the trimmed text points into the text of the stage.
  have hwithin (halt : Halt) (e : SyntaxError)
      (h : PointsInto (Text.trim c.rest) (c.skip isBlank).offset halt e) :
      PointsInto c.rest c.offset halt e := by
    refine ⟨h.1, ?_⟩
    rw [hrest]
    exact h.2.within
  apply Corresponds.imp_error _ hwithin
  unfold stageAt stage
  dsimp only
  rw [Text.byteLength_sub_trimStart, htext, ← hoffset]
  generalize (c.skip isBlank).offset = offset
  generalize Text.trim c.rest = text
  have hparts := intercalate_cutOutside '=' .outside text
  split
  · exact .ok rfl
  · rw [pieces_eq rfl]
    dsimp only [bind, Except.bind]
    generalize cutOutside '=' .outside text = parts at hparts ⊢
    have hchained : Corresponds Eq (PointsInto text offset)
        (refuse offset .chainedAssignment : Except Halt Stage)
        (.error ⟨offset, .chainedAssignment⟩ : Except SyntaxError Stage) :=
      (Stands.start text offset).refuse _ _
    match parts with
    | [] => exact hchained
    | [whole] =>
        rw [List.intercalate_singleton] at hparts
        have hpath := pathAt_trimEnd_agrees whole [] offset
        rw [List.append_nil, hparts] at hpath
        rw [hparts]
        apply hpath.map
        rintro steps _ rfl
        rfl
    | [left, right] =>
        have htext : text = left ++ '=' :: right := by
          rw [← hparts]
          simp [List.intercalate]
        subst htext
        have hright : Stands (left ++ '=' :: right) offset (0 + byteLength left + 1)
            ⟨offset + byteLength left + 1, right⟩ := by
          have hequals : ('=' : Char).utf8Size = 1 := rfl
          refine ⟨by simp only; omega, left ++ ['='], by simp, ?_⟩
          rw [byteLength_concat, hequals]
          omega
        dsimp only [cursors]
        split
        · exact hright.refuse _ _
        · show Corresponds _ _ (_ >>= _) (_ >>= _)
          apply (pathAt_trimEnd_agrees left ('=' :: right) offset).bind
          rintro steps _ rfl
          unfold literal
          dsimp only
          cases Json.readString (String.ofList (Text.trim right)) with
          | ok value => exact .ok rfl
          | error fault => exact hright.refuse _ _
    | _ :: _ :: _ :: _ => exact hchained

/-- The pieces of a text are parts of it, each where its cursor says. -/
private theorem exists_of_mem_cursors {separator : Char} (hsize : separator.utf8Size = 1)
    {parts : List (List Char)} {offset : Nat} {c : Cursor} (hc : c ∈ cursors offset parts) :
    ∃ before after, List.intercalate [separator] parts = before ++ c.rest ++ after ∧
      c.offset = offset + byteLength before := by
  induction parts generalizing offset with
  | nil => cases hc
  | cons part parts ih =>
      rw [cursors, List.mem_cons] at hc
      rcases hc with rfl | hc
      · cases parts with
        | nil => exact ⟨[], [], by simp, rfl⟩
        | cons next parts =>
            rw [List.intercalate_cons_cons, List.append_assoc]
            exact ⟨[], _, rfl, rfl⟩
      · cases parts with
        | nil => cases hc
        | cons next parts =>
            obtain ⟨before, after, hparts, hoffset⟩ := ih hc
            refine ⟨part ++ separator :: before, after, ?_, ?_⟩
            · rw [List.intercalate_cons_cons, hparts]
              simp
            · rw [hoffset, Text.byteLength_append, Text.byteLength_cons, hsize]
              omega

/-- Both readers read the same, and what they refuse they refuse at a place of the text. -/
private theorem parse_agrees (source : String) :
    Corresponds Eq (PointsInto source.toList 0) (parse source) (Filter.parse source) := by
  have hparts := intercalate_cutOutside '|' .outside source.toList
  have hstage (c : Cursor) (hc : c ∈ cursors 0 (cutOutside '|' .outside source.toList)) :
      Corresponds Eq (PointsInto source.toList 0) (stageAt c) (stage c) := by
    have hbar : ('|' : Char).utf8Size = 1 := rfl
    obtain ⟨before, after, hsource, hoffset⟩ := exists_of_mem_cursors hbar hc
    apply (stageAt_agrees c).imp_error
    intro halt e h
    rw [← hparts, hsource]
    rw [hoffset] at h
    exact h.within
  have hstages := Corresponds.mapAll hstage
  unfold parse Filter.parse
  rw [pieces_eq rfl]
  apply hstages.bind
  rintro stages _ rfl
  exact .ok rfl

/-- Where two readers agree, one of them gives what the other one does. -/
private theorem eq_mapError {text : List Char} {offset : Nat} {x : Except Halt α}
    {y : Except SyntaxError α}
    (h : Corresponds Eq (PointsInto text offset) x y) : x = y.mapError .refused := by
  cases h with
  | ok h => exact congrArg Except.ok h
  | error h => exact congrArg Except.error h.1

theorem parse_eq (source : String) : parse source = (Filter.parse source).mapError .refused :=
  eq_mapError (parse_agrees source)

end Positions

/-- An error points between two characters of the text, or at one end. -/
private theorem exists_of_parse_eq_error {source : String} {e : SyntaxError}
    (h : parse source = .error e) :
    ∃ front rest, source.toList = front ++ rest ∧ e.offset = byteLength front := by
  have hagrees := Positions.parse_agrees source
  rw [h] at hagrees
  generalize Positions.parse source = x at hagrees
  cases hagrees with
  | error herror =>
      obtain ⟨_, front, rest, hsource, hoffset⟩ := herror
      exact ⟨front, rest, hsource, by omega⟩

/-! ## A filter behind another one -/

private theorem mapError_refused_injective {α : Type} {x y : Except SyntaxError α}
    (h : x.mapError Positions.Halt.refused = y.mapError .refused) : x = y := by
  cases x with
  | ok a =>
      cases y with
      | ok b =>
          cases h
          rfl
      | error e => cases h
  | error e =>
      cases y with
      | ok b => cases h
      | error e' =>
          cases h
          rfl

/-- A stage is read in the same way wherever it stands. -/
theorem stage_behind (k : Nat) (c : Cursor) :
    stage { c with offset := k + c.offset } = (stage c).mapError (SyntaxError.behind k) := by
  have hstage := Positions.eq_mapError (Positions.stageAt_agrees c)
  have hbehind := Positions.eq_mapError
    (Positions.stageAt_agrees { c with offset := k + c.offset })
  rw [Positions.stageAt_behind, hstage] at hbehind
  apply mapError_refused_injective
  rw [← hbehind]
  cases stage c <;> rfl

private theorem cursors_behind (k offset : Nat) (parts : List (List Char)) :
    cursors (k + offset) parts =
      (cursors offset parts).map fun c => { c with offset := k + c.offset } := by
  induction parts generalizing offset with
  | nil => rfl
  | cons part parts ih =>
      rw [cursors, cursors, List.map_cons, ← ih]
      simp only [Nat.add_assoc]

/-- The stages of a text are read in the same way wherever it stands. -/
private theorem mapAll_stage_behind (k : Nat) (text : List Char) :
    mapAll stage (cursors k (cutOutside '|' .outside text)) =
      (mapAll stage (cursors 0 (cutOutside '|' .outside text))).mapError
        (SyntaxError.behind k) := by
  have hcursors := cursors_behind k 0 (cutOutside '|' .outside text)
  rw [Nat.add_zero] at hcursors
  rw [hcursors, mapError_mapAll, mapAll_map]
  simp only [stage_behind]

/-- Behind a filter the stages of another one follow. -/
theorem mapAll_stage_append {text rest : List Char} {stages : List Stage}
    (h : DerivesFilter text stages) (offset : Nat) :
    mapAll stage (cursors offset (cutOutside '|' .outside (text ++ '|' :: rest))) =
      (mapAll stage (cursors (offset + byteLength text + 1) (cutOutside '|' .outside rest))).map
        (stages ++ ·) := by
  induction h generalizing offset with
  | @one text found hstage =>
      have hread : stage ⟨offset, text⟩ = .ok found := stage_iff.2 hstage
      rw [hstage.uncut.cons, cursors, mapAll, hread]
      rfl
  | @more text found others stages hstage _ ih =>
      have hread : stage ⟨offset, text⟩ = .ok found := stage_iff.2 hstage
      have hbar : ('|' : Char).utf8Size = 1 := rfl
      have hoffset : offset + byteLength (text ++ '|' :: others) + 1 =
          offset + byteLength text + 1 + byteLength others + 1 := by
        rw [Text.byteLength_append, Text.byteLength_cons, hbar]
        omega
      rw [List.append_assoc, List.cons_append, hstage.uncut.cons, cursors, mapAll, hread, ih,
        hoffset]
      cases mapAll stage _ <;> rfl

/-- An error of a filter is found behind another one as well, as far behind as that is long. -/
private theorem parse_piped_eq_error {f g : String} {filter : Filter} {e : SyntaxError}
    (hf : parse f = .ok filter) (hg : parse g = .error e) :
    parse (f ++ "|" ++ g) = .error ⟨e.offset + f.utf8ByteSize + 1, e.reason⟩ := by
  have hread (source : String) : parse source =
      (mapAll stage (cursors 0 (cutOutside '|' .outside source.toList))).map Filter.mk := by
    unfold parse
    cases mapAll stage _ <;> rfl
  have hstages : mapAll stage (cursors 0 (cutOutside '|' .outside g.toList)) = .error e := by
    rw [hread] at hg
    generalize mapAll stage _ = x at hg ⊢
    cases x with
    | ok stages => cases hg
    | error e' =>
        cases hg
        rfl
  have htext : (f ++ "|" ++ g).toList = f.toList ++ '|' :: g.toList := by simp
  rw [hread, htext, mapAll_stage_append (derives_of_parse hf), mapAll_stage_behind, hstages,
    Text.byteLength_toList]
  have hoffset : 0 + f.utf8ByteSize + 1 + e.offset = e.offset + f.utf8ByteSize + 1 := by omega
  show Except.error (⟨0 + f.utf8ByteSize + 1 + e.offset, e.reason⟩ : SyntaxError) = _
  rw [hoffset]

/-! ## Reading points into its text -/

/-- A reader of filters that always comes to an end and that points into the text it is given. -/
structure PointsIntoSource (read : String → Except SyntaxError Filter) : Prop where
  /-- Every cut by byte positions on the way is one between two characters of the text. -/
  cuts : ∀ source, Positions.parse source = (read source).mapError .refused
  inside : ∀ source e, read source = .error e → e.offset ≤ source.utf8ByteSize
  boundary : ∀ source e, read source = .error e → (String.Pos.Raw.mk e.offset).IsValid source
  piped : ∀ f g filter e, read f = .ok filter → read g = .error e →
    read (f ++ "|" ++ g) = .error ⟨e.offset + f.utf8ByteSize + 1, e.reason⟩

/-- Reading a filter, over its text as it stands, comes to an end without a cut that is not
possible, and what it refuses it refuses at a character boundary, which moves with the text. -/
theorem parse_pointsIntoSource : PointsIntoSource parse where
  cuts := Positions.parse_eq
  inside source e h := by
    obtain ⟨front, rest, hsource, hoffset⟩ := exists_of_parse_eq_error h
    rw [hoffset, ← Text.byteLength_toList, hsource, Text.byteLength_append]
    exact Nat.le_add_right _ _
  boundary source e h := by
    obtain ⟨front, rest, hsource, hoffset⟩ := exists_of_parse_eq_error h
    rw [hoffset]
    exact Text.isValid_of_toList_eq hsource
  piped f g filter e hf hg := parse_piped_eq_error hf hg

end ClusterEvidence.Filter
