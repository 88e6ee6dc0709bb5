import ClusterEvidence.Proofs.Filter.Path

/-!
# Filters are read by their grammar

A filter is cut into stages, and an assignment at its `=`, before anything else is known about its
text. No cut goes through a path or a JSON text, so the pieces of a text of the grammar are the
parts of its derivation; and the pieces of any text, joined again, are the text, so that pieces that
are read derive it.

## Main results

* `stage_iff` — one stage.
* `DerivesFilter.unique` — the grammar is not ambiguous.
* `parse_iff` — a filter is read exactly when the grammar derives its text, as what it derives.
-/

namespace ClusterEvidence.Filter

open Text (Blank Begins Closes Cursor isBlank)

/-! ## One stage -/

theorem cursors_singleton (offset : Nat) (piece : List Char) :
    cursors offset [piece] = [⟨offset, piece⟩] := rfl

/-- The stage without results. -/
private theorem stage_empty {c : Cursor} (h : Text.trim c.rest = ['e', 'm', 'p', 't', 'y']) :
    stage c = .ok .empty := by
  unfold stage
  exact if_pos h

/-- A stage that is read as a path or an assignment. -/
theorem stage_of_ne {c : Cursor} (h : Text.trim c.rest ≠ ['e', 'm', 'p', 't', 'y']) :
    stage c =
      match cursors (c.skip isBlank).offset (cutOutside '=' .outside (Text.trim c.rest)) with
      | [whole] => (path { whole with rest := Text.trimEnd whole.rest }).map .path
      | [left, right] =>
          if right.rest.head? = some '=' ∨ endsLikeComparison left.rest then
            .error ⟨right.offset, .comparison⟩
          else do
            let steps ← path { left with rest := Text.trimEnd left.rest }
            let value ← literal right
            .ok (.assign steps value)
      | _ => .error ⟨(c.skip isBlank).offset, .chainedAssignment⟩ := by
  unfold stage
  exact if_neg h

private theorem literal_eq_ok {offset : Nat} {text : List Char} {value : Json}
    (h : literal ⟨offset, text⟩ = .ok value) :
    Json.readString (String.ofList (Text.trim text)) = .ok value := by
  unfold literal at h
  split at h
  · next hread =>
      cases h
      exact hread
  · cases h

/-- Two sides that are read as an assignment derive it. -/
private theorem assign_sound {front left right tail : List Char} {offset place : Nat}
    {found : Stage} (hfront : Blank front) (htail : Blank tail)
    (h : (do
      let steps ← path ⟨offset, Text.trimEnd left⟩
      let value ← literal ⟨place, right⟩
      .ok (.assign steps value)) = Except.ok found) :
    DerivesStage (front ++ (left ++ '=' :: right) ++ tail) found := by
  cases hpath : path ⟨offset, Text.trimEnd left⟩ with
  | error e => simp [hpath, bind, Except.bind] at h
  | ok steps =>
      cases hvalue : literal ⟨place, right⟩ with
      | error e => simp [hpath, hvalue, bind, Except.bind] at h
      | ok value =>
          simp only [hpath, hvalue, bind, Except.bind, Except.ok.injEq] at h
          subst h
          have hderives := path_iff.1 hpath
          have hread := literal_eq_ok hvalue
          obtain ⟨middle, hleft, hmiddle, _⟩ := Text.exists_trimEnd left
          obtain ⟨next, last, hright, hnext, hlast, _⟩ := Text.exists_trim right
          have hall : front ++ (left ++ '=' :: right) ++ tail =
              front ++ Text.trimEnd left ++ middle ++
                '=' :: (next ++ Text.trim right ++ (last ++ tail)) := by
            calc front ++ (left ++ '=' :: right) ++ tail
                = front ++ (Text.trimEnd left ++ middle ++
                    '=' :: (next ++ Text.trim right ++ last)) ++ tail := by rw [← hleft, ← hright]
              _ = _ := by simp
          have hstage := DerivesStage.assign hfront hderives hmiddle hnext hread
            (hlast.append htail)
          rw [hall]
          exact hstage

/-- What is read as a stage is derived as that stage. -/
private theorem stage_sound {c : Cursor} {found : Stage} (h : stage c = .ok found) :
    DerivesStage c.rest found := by
  obtain ⟨front, tail, hrest, hfront, htail, _, _⟩ := Text.exists_trim c.rest
  by_cases hempty : Text.trim c.rest = ['e', 'm', 'p', 't', 'y']
  · rw [stage_empty hempty] at h
    cases h
    rw [hrest, hempty]
    exact .empty hfront htail
  · rw [stage_of_ne hempty] at h
    have hjoin := intercalate_cutOutside '=' .outside (Text.trim c.rest)
    generalize cutOutside '=' .outside (Text.trim c.rest) = pieces at h hjoin
    match pieces with
    | [] => cases h
    | [whole] =>
        rw [cursors_singleton] at h
        simp only at h
        cases hpath : path ⟨(c.skip isBlank).offset, Text.trimEnd whole⟩ with
        | error e => simp [hpath, Except.map] at h
        | ok steps =>
            simp only [hpath, Except.map, Except.ok.injEq] at h
            subst h
            have hderives := path_iff.1 hpath
            obtain ⟨gap, hwhole, hgap, _⟩ := Text.exists_trimEnd whole
            have htrim : Text.trim c.rest = Text.trimEnd whole ++ gap := by
              rw [← hwhole, ← hjoin]
              simp [List.intercalate, List.intersperse]
            rw [hrest, htrim, ← List.append_assoc, List.append_assoc (front ++ Text.trimEnd whole)]
            exact .path hfront hderives (hgap.append htail)
    | [left, right] =>
        simp only [cursors] at h
        split at h
        · cases h
        · have htrim : Text.trim c.rest = left ++ '=' :: right := by
            rw [← hjoin]
            simp [List.intercalate, List.intersperse]
          rw [hrest, htrim]
          exact assign_sound hfront htail h
    | _ :: _ :: _ :: _ => cases h

/-- A JSON text is not empty. -/
theorem ne_nil_of_readString {text : List Char} {value : Json}
    (h : Json.readString (String.ofList text) = .ok value) : text ≠ [] := by
  rintro rfl
  have hnil : Json.readString (String.ofList []) = .error .malformed := by
    simp [Json.readString, Text.encodeString, Json.read, Json.Written.read, Json.Token.all?]
    rfl
  rw [hnil] at h
  cases h

/-- A JSON text with white space around it is a JSON text that neither begins nor ends with white
space, with white space around it. -/
private theorem exists_core {json : List Char} {value : Json}
    (h : Json.readString (String.ofList json) = .ok value) {next after : List Char}
    (hnext : Blank next) (hafter : Blank after) :
    ∃ gap core last, next ++ json ++ after = gap ++ core ++ last ∧ Blank gap ∧ Blank last ∧
      Begins core ∧ Closes core ∧ Json.readString (String.ofList core) = .ok value := by
  obtain ⟨front, tail, hjson, hfront, htail, hbegins, hcloses⟩ := Text.exists_trim json
  have hall : next ++ json ++ after = next ++ front ++ Text.trim json ++ (tail ++ after) := by
    calc next ++ json ++ after
        = next ++ (front ++ Text.trim json ++ tail) ++ after := by rw [← hjson]
      _ = _ := by simp
  rw [hjson] at h
  exact ⟨next ++ front, Text.trim json, tail ++ after, hall, hnext.append hfront,
    htail.append hafter, hbegins, hcloses, readString_of_blank h hfront htail⟩

/-- The end of a path and the white space behind it look like no comparison. -/
private theorem endsLikeComparison_path {path middle : List Char} {steps : List Step}
    (hpath : DerivesPath path steps) (hmiddle : Blank middle) :
    endsLikeComparison (path ++ middle) = false := by
  unfold endsLikeComparison
  cases hlast : (path ++ middle).getLast? with
  | none => rfl
  | some c =>
      rw [List.getLast?_append, Option.or_eq_some_iff] at hlast
      have hne : c ≠ '!' ∧ c ≠ '<' ∧ c ≠ '>' := by
        rcases hlast with hlast | ⟨_, hlast⟩
        · have hblank := hmiddle c (List.mem_of_getLast? hlast)
          refine ⟨?_, ?_, ?_⟩ <;> rintro rfl <;> exact absurd hblank (by decide)
        · have hend := hpath.endsPath c hlast
          refine ⟨?_, ?_, ?_⟩ <;> rintro rfl <;> exact absurd hend (by decide)
      simp [hne]

/-- A path with white space around it is read as that path. -/
private theorem stage_path {c : Cursor} {before path after : List Char} {steps : List Step}
    (hc : c.rest = before ++ path ++ after) (hbefore : Blank before)
    (hpath : DerivesPath path steps)
    (hafter : Blank after) : stage c = .ok (.path steps) := by
  have hbegins : Begins path := Text.begins_of_head hpath.head (by decide)
  have htrim : Text.trim c.rest = path := by
    rw [hc]
    exact Text.trim_eq hbefore hafter hbegins hpath.closes
  have hne : Text.trim c.rest ≠ ['e', 'm', 'p', 't', 'y'] := by
    rw [htrim]
    rintro rfl
    cases hpath.head
  have hend : Text.trimEnd path = path := by
    have hnil := Text.trimEnd_eq hpath.closes Blank.nil
    rwa [List.append_nil] at hnil
  have hcut : cutOutside '=' .outside path = [path] :=
    (hpath.balanced.uncut (.inr rfl)).eq_singleton
  rw [stage_of_ne hne, htrim, hcut, cursors_singleton]
  simp only [hend]
  rw [path_iff.2 hpath]
  rfl

/-- The text of a literal is read as its value, whatever white space is around it. -/
private theorem literal_complete {gap core : List Char} {value : Json} (hgap : Blank gap)
    (hbegins : Begins core) (hcloses : Closes core)
    (hread : Json.readString (String.ofList core) = .ok value) (offset : Nat) :
    literal ⟨offset, gap ++ core⟩ = .ok value := by
  have hcore : Text.trim (gap ++ core) = core := by
    have htrim := Text.trim_eq hgap Blank.nil hbegins hcloses
    rwa [List.append_nil] at htrim
  unfold literal
  simp only [hcore, hread]

/-- A path and a literal with `=` in between are read as that assignment. -/
private theorem stage_assign {c : Cursor} {before path middle next json after : List Char}
    {steps : List Step} {value : Json}
    (hc : c.rest = before ++ path ++ middle ++ '=' :: (next ++ json ++ after))
    (hbefore : Blank before) (hpath : DerivesPath path steps) (hmiddle : Blank middle)
    (hnext : Blank next) (hjson : Json.readString (String.ofList json) = .ok value)
    (hafter : Blank after) : stage c = .ok (.assign steps value) := by
  obtain ⟨gap, core, last, hright, hgap, hlast, hbegins, hcloses, hread⟩ :=
    exists_core hjson hnext hafter
  have hhead : (path ++ middle ++ '=' :: (gap ++ core)).head? = some '.' := by
    rw [List.append_assoc, List.head?_append, hpath.head]
    rfl
  have hend : Closes (path ++ middle ++ '=' :: (gap ++ core)) := by
    have hassoc : path ++ middle ++ '=' :: (gap ++ core) =
        (path ++ middle ++ '=' :: gap) ++ core := by simp
    rw [hassoc]
    exact hcloses.append (ne_nil_of_readString hread)
  have htrim : Text.trim c.rest = path ++ middle ++ '=' :: (gap ++ core) := by
    have hstart := Text.begins_of_head hhead (by decide)
    rw [hc, hright, ← Text.trim_eq hbefore hlast hstart hend]
    simp
  have hne : Text.trim c.rest ≠ ['e', 'm', 'p', 't', 'y'] := by
    intro hempty
    rw [← htrim, hempty] at hhead
    cases hhead
  have hfirst : Balanced (path ++ middle) := hpath.balanced.append (balanced_of_blank hmiddle)
  have hsecond : Balanced (gap ++ core) :=
    (balanced_of_blank hgap).append (balanced_of_readString hread)
  have hcut : cutOutside '=' .outside (path ++ middle ++ '=' :: (gap ++ core)) =
      [path ++ middle, gap ++ core] := by
    rw [(hfirst.uncut (.inr rfl)).cons, (hsecond.uncut (.inr rfl)).eq_singleton]
  have hcompare : ¬ ((gap ++ core).head? = some '=' ∨
      endsLikeComparison (path ++ middle) = true) := by
    rw [endsLikeComparison_path hpath hmiddle]
    rintro (hequals | hlike)
    · exact hsecond.head_ne hequals
    · cases hlike
  have hsteps : ∀ offset, Filter.path ⟨offset, path⟩ = .ok steps := fun offset => path_iff.2 hpath
  have hvalue := literal_complete hgap hbegins hcloses hread
  rw [stage_of_ne hne, htrim, hcut]
  simp only [cursors, if_neg hcompare, Text.trimEnd_eq hpath.closes hmiddle, hsteps, hvalue]
  rfl

/-- What is derived as a stage is read as that stage. -/
private theorem stage_complete {c : Cursor} {text : List Char} {found : Stage}
    (h : DerivesStage text found) (hc : c.rest = text) : stage c = .ok found := by
  cases h with
  | empty hbefore hafter =>
      have hempty : Text.trim c.rest = ['e', 'm', 'p', 't', 'y'] := by
        rw [hc]
        exact Text.trim_eq hbefore hafter (Text.begins_of_head rfl (by decide))
          (by intro d hd; cases hd; decide)
      exact stage_empty hempty
  | path hbefore hpath hafter => exact stage_path hc hbefore hpath hafter
  | assign hbefore hpath hmiddle hnext hjson hafter =>
      exact stage_assign hc hbefore hpath hmiddle hnext hjson hafter

/-- A stage is read exactly when the grammar derives it, as what it derives. -/
theorem stage_iff {c : Cursor} {found : Stage} :
    stage c = .ok found ↔ DerivesStage c.rest found :=
  ⟨stage_sound, fun h => stage_complete h rfl⟩

/-! ## The stages of a filter -/

/-- The cut at `|` does not go through a stage. -/
theorem DerivesStage.uncut {text : List Char} {found : Stage} (h : DerivesStage text found) :
    Uncut '|' text := by
  have hbalanced : ∀ {text}, Balanced text → Uncut '|' text := fun h => h.uncut (.inl rfl)
  have hblank : ∀ {text}, Blank text → Uncut '|' text := fun h => hbalanced (balanced_of_blank h)
  cases h with
  | empty hbefore hafter =>
      have hword : Uncut '|' ['e', 'm', 'p', 't', 'y'] := hbalanced (balanced_of_forall (by simp))
      exact ((hblank hbefore).append hword).append (hblank hafter)
  | path hbefore hpath hafter =>
      exact ((hblank hbefore).append (hbalanced hpath.balanced)).append (hblank hafter)
  | @assign before path steps middle next json value after hbefore hpath hmiddle hnext hjson
      hafter =>
      have hleft := ((hblank hbefore).append (hbalanced hpath.balanced)).append (hblank hmiddle)
      have hright := ((hblank hnext).append (hbalanced (balanced_of_readString hjson))).append
        (hblank hafter)
      have hequals : Uncut '|' ['='] := .singleton (by decide) (by decide)
      exact hleft.append (hequals.append hright)

/-- Pieces that are read one by one derive, with `|` in between, what they are read as. -/
private theorem filter_sound {pieces : List (List Char)} {offset : Nat} {stages : List Stage}
    (hne : pieces ≠ []) (h : mapAll stage (cursors offset pieces) = .ok stages) :
    DerivesFilter (List.intercalate ['|'] pieces) stages := by
  induction pieces generalizing offset stages with
  | nil => exact absurd rfl hne
  | cons piece pieces ih =>
      cases hfirst : stage ⟨offset, piece⟩ with
      | error e => simp [cursors, mapAll, hfirst, bind, Except.bind] at h
      | ok first =>
          have hstage : DerivesStage piece first := stage_iff.1 hfirst
          cases hothers : mapAll stage (cursors (offset + Text.byteLength piece + 1) pieces) with
          | error e => simp [cursors, mapAll, hfirst, hothers, bind, Except.bind] at h
          | ok others =>
              simp only [cursors, mapAll, hfirst, hothers, bind, Except.bind, Except.ok.injEq] at h
              subst h
              cases pieces with
              | nil =>
                  cases hothers
                  rw [List.intercalate_singleton]
                  exact .one hstage
              | cons second pieces =>
                  have hrest := ih (List.cons_ne_nil _ _) hothers
                  rw [List.intercalate_cons_cons, List.append_assoc]
                  exact .more hstage hrest

/-- What is derived as a filter is cut into pieces that are read as its stages. -/
private theorem filter_complete {text : List Char} {stages : List Stage}
    (h : DerivesFilter text stages)
    (offset : Nat) : mapAll stage (cursors offset (cutOutside '|' .outside text)) = .ok stages := by
  induction h generalizing offset with
  | @one text found hstage =>
      have hread : stage ⟨offset, text⟩ = .ok found := stage_iff.2 hstage
      rw [hstage.uncut.eq_singleton, cursors_singleton]
      simp [mapAll, hread, bind, Except.bind]
  | @more text found rest stages hstage _ ih =>
      have hread : stage ⟨offset, text⟩ = .ok found := stage_iff.2 hstage
      rw [hstage.uncut.cons]
      simp [cursors, mapAll, hread, ih, bind, Except.bind]

/-- The grammar derives a text as one row of stages only. -/
theorem DerivesFilter.unique {text : List Char} {stages others : List Stage}
    (h : DerivesFilter text stages) (h' : DerivesFilter text others) : stages = others := by
  have hread := filter_complete h 0
  rw [filter_complete h' 0] at hread
  cases hread
  rfl

/-- What is read as a filter derives its stages. -/
theorem derives_of_parse {source : String} {filter : Filter} (h : parse source = .ok filter) :
    DerivesFilter source.toList filter.stages := by
  cases hread : mapAll stage (cursors 0 (cutOutside '|' .outside source.toList)) with
  | error e => simp [parse, hread, bind, Except.bind] at h
  | ok found =>
      simp only [parse, hread, bind, Except.bind, Except.ok.injEq] at h
      subst h
      have hderives := filter_sound (cutOutside_ne_nil '|' .outside source.toList) hread
      rwa [intercalate_cutOutside] at hderives

/-- What is derived as a filter is read as that filter. -/
theorem parse_of_derives {source : String} {stages : List Stage}
    (h : DerivesFilter source.toList stages) : parse source = .ok ⟨stages⟩ := by
  have hread := filter_complete h 0
  simp [parse, hread, bind, Except.bind]

/-- A filter is read exactly when the grammar derives its text, as what it derives. -/
theorem parse_iff (source : String) (stages : List Stage) :
    parse source = .ok ⟨stages⟩ ↔ DerivesFilter source.toList stages := by
  constructor
  · intro h
    exact derives_of_parse h
  · intro h
    exact parse_of_derives h

end ClusterEvidence.Filter
