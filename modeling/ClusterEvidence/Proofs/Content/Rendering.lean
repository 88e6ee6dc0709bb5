import ClusterEvidence.Content.Directive
import ClusterEvidence.Proofs.Text.Blank
import ClusterEvidence.Proofs.Traverse

/-!
# Rendering templates

A reference begins with a dollar sign and has no other one. Therefore no two references in a text
overlap, and reading a template from the left meets all of them (`exists_cut`). The parts between
them are its other characters, and rendering replaces each part for itself.

It follows that a template put together from two others is rendered as these are, unless the seam
runs through a reference.

## Main results

* `reference?_eq_some_iff` — what stands in front of a text that begins with a reference.
* `exists_cut` — a template is its references and its other characters.
* `parts_append` — the parts of a template put together from two.
* `renderSlices_eq` — copying from one reference to the next loses nothing and repeats nothing.
* `render_substitutesOnce` — when a template can be rendered, and what that gives.
-/

namespace ClusterEvidence.Directive

open Text (isBlank Blank trimStart byteLength)

/-! ## References -/

/-- A text that is a reference: a name in braces behind a dollar sign, with white space allowed
around the name. -/
inductive IsReference (name : List Char) : List Char → Prop where
  | intro {front back : List Char} (hname : name ≠ [])
      (hchars : ∀ c ∈ name, isNameChar c = true) (hfront : Blank front) (hback : Blank back) :
      IsReference name ('$' :: '{' :: (front ++ (name ++ (back ++ ['}']))))

private theorem visible_isNameChar : Text.Visible isNameChar :=
  Text.visible_of_marks ['_', '.', '-'] (by simp [isNameChar, or_assoc]) (by simp)

/-- The one dollar sign of a reference is its first character. -/
theorem IsReference.exists_tail {name text : List Char} (h : IsReference name text) :
    ∃ tail, text = '$' :: tail ∧ '$' ∉ tail := by
  cases h with
  | @intro front back hname hchars hfront hback =>
      refine ⟨_, rfl, fun hmem => ?_⟩
      simp only [List.mem_cons, List.mem_append, List.not_mem_nil, or_false] at hmem
      rcases hmem with h | h | h | h | h
      · exact absurd h (by decide)
      · exact absurd (hfront _ h) (by decide)
      · exact absurd (hchars _ h) (by decide)
      · exact absurd (hback _ h) (by decide)
      · exact absurd h (by decide)

theorem IsReference.ne_nil {name text : List Char} (h : IsReference name text) : text ≠ [] := by
  obtain ⟨tail, rfl, _⟩ := h.exists_tail
  exact List.cons_ne_nil _ _

/-- The name that stands in front of a text is the run of its characters. -/
private theorem takeWhile_name {name back rest : List Char}
    (hchars : ∀ c ∈ name, isNameChar c = true) (hback : Blank back) :
    (name ++ (back ++ '}' :: rest)).takeWhile isNameChar = name ∧
      (name ++ (back ++ '}' :: rest)).dropWhile isNameChar = back ++ '}' :: rest := by
  have hbehind : (back ++ '}' :: rest).takeWhile isNameChar = [] ∧
      (back ++ '}' :: rest).dropWhile isNameChar = back ++ '}' :: rest := by
    cases back with
    | nil => exact ⟨rfl, rfl⟩
    | cons c back =>
        have hc := visible_isNameChar.not_of_isBlank (hback c List.mem_cons_self)
        simp [hc]
  rw [List.takeWhile_append_of_pos hchars, List.dropWhile_append_of_pos hchars, hbehind.1,
    List.append_nil]
  exact ⟨rfl, hbehind.2⟩

/-- What stands in front of a text that begins with a reference. -/
theorem reference?_eq_some_iff {text name rest : List Char} :
    reference? text = some (name, rest) ↔
      ∃ taken, text = taken ++ rest ∧ IsReference name taken := by
  constructor
  · intro h
    unfold reference? at h
    split at h
    · next body =>
        dsimp only at h
        split at h
        · next tail htail =>
            split at h
            · cases h
            · next hname =>
                cases h
                obtain ⟨front, hbody, hfront, _⟩ := Text.exists_trimStart body
                obtain ⟨back, hbehind, hback, _⟩ :=
                  Text.exists_trimStart ((trimStart body).dropWhile isNameChar)
                have hchars := List.all_eq_true.1
                  (List.all_takeWhile (l := trimStart body) (p := isNameChar))
                refine ⟨_, ?_, .intro (by simpa using hname) hchars hfront hback⟩
                rw [htail] at hbehind
                have hwhole : body =
                    front ++ ((trimStart body).takeWhile isNameChar ++ (back ++ '}' :: rest)) := by
                  rw [← hbehind, List.takeWhile_append_dropWhile]
                  exact hbody
                conv => lhs; rw [hwhole]
                simp
        · cases h
    · cases h
  · rintro ⟨taken, rfl, h⟩
    cases h with
    | @intro front back hname hchars hfront hback =>
        have hbegins : Text.Begins (name ++ (back ++ '}' :: rest)) := by
          cases name with
          | nil => exact absurd rfl hname
          | cons c name =>
              have hc := hchars c List.mem_cons_self
              exact Text.begins_of_head rfl (visible_isNameChar.isBlank hc)
        have htext : '$' :: '{' :: (front ++ (name ++ (back ++ ['}']))) ++ rest =
            '$' :: '{' :: (front ++ (name ++ (back ++ '}' :: rest))) := by
          simp
        have hend : trimStart (back ++ '}' :: rest) = '}' :: rest :=
          Text.trimStart_eq hback (Text.begins_of_head rfl (by decide))
        obtain ⟨htake, hdrop⟩ := @takeWhile_name name back rest hchars hback
        rw [htext, reference?]
        rw [Text.trimStart_eq hfront hbegins, htake, hdrop, hend]
        simp [hname]

/-- No reference begins inside another one. -/
private theorem exists_of_append_eq {name taken rest other text behind front : List Char}
    (h : IsReference name taken) (hother : IsReference other text)
    (heq : taken ++ rest = front ++ (text ++ behind)) (hfront : front ≠ []) :
    ∃ between, front = taken ++ between ∧ rest = between ++ (text ++ behind) := by
  rcases List.append_eq_append_iff.1 heq with ⟨between, hfront, hrest⟩ | ⟨inner, htaken, hinner⟩
  · exact ⟨between, hfront, hrest⟩
  · cases inner with
    | nil => exact ⟨[], by simpa using htaken.symm, by simpa using hinner.symm⟩
    | cons c inner =>
        obtain ⟨tail, rfl, htail⟩ := h.exists_tail
        obtain ⟨_, rfl, _⟩ := hother.exists_tail
        cases front with
        | nil => exact absurd rfl hfront
        | cons d front =>
            simp only [List.cons_append, List.cons.injEq] at htaken hinner
            exact absurd (by simp [htaken.2, ← hinner.1]) htail

/-! ## The parts of a template -/

theorem parts_nil : parts [] = [] := by rw [parts]

/-- A reference is read as one part. -/
theorem parts_reference {name taken : List Char} (h : IsReference name taken) (rest : List Char) :
    parts (taken ++ rest) = .reference name :: parts rest := by
  have hreference : reference? (taken ++ rest) = some (name, rest) :=
    reference?_eq_some_iff.2 ⟨taken, rfl, h⟩
  obtain ⟨tail, rfl, _⟩ := h.exists_tail
  rw [List.cons_append] at hreference ⊢
  rw [parts]
  split
  · next hfound =>
      rw [hreference] at hfound
      cases hfound
      rfl
  · next hnone =>
      rw [hreference] at hnone
      cases hnone

/-- A character with which no reference begins is a part. -/
theorem parts_character {c : Char} {text : List Char} (h : reference? (c :: text) = none) :
    parts (c :: text) = .character c :: parts text := by
  rw [parts]
  split
  · next hfound =>
      rw [h] at hfound
      cases hfound
  · rfl

/-- Reading a template from the left: nothing is left, it begins with a reference, or it begins with
a character with which no reference begins. -/
theorem parts_induction {P : List Char → Prop} (nil : P [])
    (reference : ∀ name taken rest, IsReference name taken → P rest → P (taken ++ rest))
    (character : ∀ c text, reference? (c :: text) = none → P text → P (c :: text))
    (template : List Char) : P template := by
  fun_induction parts template with
  | case1 => exact nil
  | case2 c text name rest hreference ih =>
      obtain ⟨taken, htext, htaken⟩ := reference?_eq_some_iff.1 hreference
      rw [htext]
      exact reference name taken rest htaken ih
  | case3 c text hreference ih => exact character c text hreference ih

/-- What a part looks like in a template. -/
inductive Spells : Part → List Char → Prop where
  | character (c : Char) : Spells (.character c) [c]
  | reference {name text : List Char} (h : IsReference name text) : Spells (.reference name) text

/-- A template cut into all of its references and its other characters. -/
structure Cut (template : List Char) (pieces : List (Part × List Char)) : Prop where
  spells : ∀ piece ∈ pieces, Spells piece.1 piece.2
  whole : template = pieces.flatMap (·.2)
  /-- Wherever a reference stands, it is a piece. -/
  all : ∀ front name text back, template = front ++ (text ++ back) → IsReference name text →
    ∃ earlier later, pieces = earlier ++ (.reference name, text) :: later ∧
      front = earlier.flatMap (·.2)

theorem Cut.nil : Cut [] [] where
  spells := by simp
  whole := rfl
  all front name text back heq h := by
    have htext := h.ne_nil
    simp_all

/-- References do not overlap, so those behind the first one are all others. -/
private theorem Cut.reference {name taken rest : List Char} {pieces : List (Part × List Char)}
    (h : IsReference name taken) (hrest : Cut rest pieces) :
    Cut (taken ++ rest) ((.reference name, taken) :: pieces) where
  spells piece hpiece := by
    rcases List.mem_cons.1 hpiece with rfl | hpiece
    · exact .reference h
    · exact hrest.spells piece hpiece
  whole := by rw [List.flatMap_cons, ← hrest.whole]
  all front other text back heq hother := by
    by_cases hfront : front = []
    · subst hfront
      have hfirst : reference? (taken ++ rest) = some (name, rest) :=
        reference?_eq_some_iff.2 ⟨taken, rfl, h⟩
      rw [heq, List.nil_append, reference?_eq_some_iff.2 ⟨text, rfl, hother⟩, Option.some.injEq,
        Prod.mk.injEq] at hfirst
      obtain ⟨rfl, rfl⟩ := hfirst
      rw [List.nil_append, List.append_cancel_right_eq] at heq
      subst heq
      exact ⟨[], pieces, rfl, rfl⟩
    · obtain ⟨between, rfl, hbetween⟩ := exists_of_append_eq h hother heq hfront
      obtain ⟨earlier, later, rfl, rfl⟩ := hrest.all between other text back hbetween hother
      exact ⟨(.reference name, taken) :: earlier, later, rfl, by rw [List.flatMap_cons]⟩

private theorem Cut.character {c : Char} {text : List Char} {pieces : List (Part × List Char)}
    (h : reference? (c :: text) = none) (hrest : Cut text pieces) :
    Cut (c :: text) ((.character c, [c]) :: pieces) where
  spells piece hpiece := by
    rcases List.mem_cons.1 hpiece with rfl | hpiece
    · exact .character c
    · exact hrest.spells piece hpiece
  whole := by rw [List.flatMap_cons, ← hrest.whole, List.singleton_append]
  all front name taken back heq hreference := by
    cases front with
    | nil =>
        rw [List.nil_append] at heq
        rw [heq, reference?_eq_some_iff.2 ⟨taken, rfl, hreference⟩] at h
        cases h
    | cons d front =>
        rw [List.cons_append, List.cons.injEq] at heq
        obtain ⟨rfl, htext⟩ := heq
        obtain ⟨earlier, later, rfl, rfl⟩ := hrest.all front name taken back htext hreference
        exact ⟨(.character c, [c]) :: earlier, later, rfl, by
          rw [List.flatMap_cons, List.singleton_append]⟩

/-- A template is its references and its other characters, and they are read in their order. -/
theorem exists_cut (template : List Char) :
    ∃ pieces, Cut template pieces ∧ parts template = pieces.map (·.1) := by
  induction template using parts_induction with
  | nil => exact ⟨[], .nil, parts_nil⟩
  | reference name taken rest h ih =>
      obtain ⟨pieces, hcut, hparts⟩ := ih
      exact ⟨_, hcut.reference h, by rw [parts_reference h, hparts, List.map_cons]⟩
  | character c text h ih =>
      obtain ⟨pieces, hcut, hparts⟩ := ih
      exact ⟨_, hcut.character h, by rw [parts_character h, hparts, List.map_cons]⟩

private theorem Spells.ne_nil {part : Part} {text : List Char} (h : Spells part text) :
    text ≠ [] := by
  cases h with
  | character c => exact List.cons_ne_nil c []
  | reference h => exact h.ne_nil

private theorem Cut.tail {part : Part} {text rest : List Char} {pieces : List (Part × List Char)}
    (hcut : Cut (text ++ rest) ((part, text) :: pieces)) : Cut rest pieces where
  spells piece hpiece := hcut.spells piece (List.mem_cons_of_mem _ hpiece)
  whole := by
    have hwhole := hcut.whole
    rwa [List.flatMap_cons, List.append_cancel_left_eq] at hwhole
  all front name taken back heq h := by
    have hlonger : text ++ rest = (text ++ front) ++ (taken ++ back) := by
      rw [heq, List.append_assoc]
    obtain ⟨earlier, later, hpieces, hfront⟩ := hcut.all _ name taken back hlonger h
    cases earlier with
    | nil =>
        have hne := (hcut.spells _ List.mem_cons_self).ne_nil
        exact absurd (List.append_eq_nil_iff.1 hfront).1 hne
    | cons piece earlier =>
        rw [List.cons_append, List.cons.injEq] at hpieces
        obtain ⟨rfl, rfl⟩ := hpieces
        rw [List.flatMap_cons, List.append_cancel_left_eq] at hfront
        exact ⟨earlier, later, rfl, hfront⟩

/-- There is one way to cut a template. -/
private theorem Cut.map_eq_parts {template : List Char} {pieces : List (Part × List Char)}
    (hcut : Cut template pieces) : pieces.map (·.1) = parts template := by
  induction template using parts_induction generalizing pieces with
  | nil =>
      cases pieces with
      | nil => rw [parts_nil, List.map_nil]
      | cons piece pieces =>
          have hne := (hcut.spells _ List.mem_cons_self).ne_nil
          have hwhole := hcut.whole
          rw [List.flatMap_cons] at hwhole
          exact absurd (List.append_eq_nil_iff.1 hwhole.symm).1 hne
  | reference name taken rest h ih =>
      obtain ⟨earlier, later, rfl, hfront⟩ := hcut.all [] name taken rest rfl h
      cases earlier with
      | nil => rw [List.nil_append, List.map_cons, parts_reference h, ih hcut.tail]
      | cons piece earlier =>
          have hne := (hcut.spells _ (List.mem_append_left _ List.mem_cons_self)).ne_nil
          rw [List.flatMap_cons] at hfront
          exact absurd (List.append_eq_nil_iff.1 hfront.symm).1 hne
  | character c text h ih =>
      cases pieces with
      | nil => cases hcut.whole
      | cons piece pieces =>
          obtain ⟨part, taken⟩ := piece
          have hwhole := hcut.whole
          rw [List.flatMap_cons] at hwhole
          cases hcut.spells _ List.mem_cons_self with
          | character d =>
              rw [List.singleton_append, List.cons.injEq] at hwhole
              obtain ⟨rfl, -⟩ := hwhole
              rw [List.map_cons, parts_character h, ih (@Cut.tail _ [c] _ _ hcut)]
          | reference hreference =>
              rw [hwhole, reference?_eq_some_iff.2 ⟨taken, rfl, hreference⟩] at h
              cases h

/-! ## Templates put together -/

/-- The seam between two texts runs through a reference. -/
def SeamCuts (first second : List Char) : Prop :=
  ∃ front name text back, first ++ second = front ++ (text ++ back) ∧ IsReference name text ∧
    front.length < first.length ∧ first.length < front.length + text.length

/-- What stands in front of the seam may be taken away. -/
private theorem SeamCuts.of_suffix {taken first second : List Char} (h : SeamCuts first second) :
    SeamCuts (taken ++ first) second := by
  obtain ⟨front, name, text, back, heq, hreference, hbefore, hbehind⟩ := h
  refine ⟨taken ++ front, name, text, back, ?_, hreference, ?_, ?_⟩
  · rw [List.append_assoc, heq, List.append_assoc]
  · rw [List.length_append, List.length_append]
    omega
  · rw [List.length_append, List.length_append]
    omega

/-- The parts of a template put together from two are those of each. -/
theorem parts_append {first second : List Char} (h : ¬ SeamCuts first second) :
    parts (first ++ second) = parts first ++ parts second := by
  induction first using parts_induction with
  | nil => rw [parts_nil, List.nil_append, List.nil_append]
  | reference name taken rest hreference ih =>
      rw [List.append_assoc, parts_reference hreference, parts_reference hreference,
        ih fun hcuts => h hcuts.of_suffix, List.cons_append]
  | character c text hnone ih =>
      have hstill : reference? (c :: (text ++ second)) = none := by
        rw [Option.eq_none_iff_forall_ne_some]
        rintro ⟨name, rest⟩ hsome
        obtain ⟨taken, heq, hreference⟩ := reference?_eq_some_iff.1 hsome
        -- The reference either ends within the first text or runs through the seam.
        rcases Nat.lt_or_ge (c :: text).length taken.length with hlong | hshort
        · exact h ⟨[], name, taken, rest, heq, hreference, by simp, by simpa using hlong⟩
        · have hprefix : taken <+: c :: text :=
            List.prefix_of_prefix_length_le ⟨rest, heq.symm⟩ ⟨second, rfl⟩ hshort
          obtain ⟨between, hbetween⟩ := hprefix
          rw [← hbetween, reference?_eq_some_iff.2 ⟨taken, rfl, hreference⟩] at hnone
          cases hnone
      have hcuts : ¬ SeamCuts text second := fun hcuts => h (@SeamCuts.of_suffix [c] _ _ hcuts)
      rw [List.cons_append, parts_character hstill, parts_character hnone, ih hcuts,
        List.cons_append]

/-! ## Rendering -/

variable {values : VariableTable}

/-- What a part is replaced by when its variable is known. -/
def Part.replacement (values : VariableTable) : Part → List Char
  | .character c => [c]
  | .reference name => ((values.get? (String.ofList name)).getD "").toList

/-- A part fails when it is a reference to a variable that the table does not have. -/
private theorem Part.render_eq_error_iff {part : Part} {e : UnknownVariable} :
    part.render values = .error e ↔
      part = .reference e.name.toList ∧ values.get? e.name = none := by
  cases part with
  | character c => simp [Part.render]
  | reference name =>
      rw [Part.render, Part.reference.injEq]
      constructor
      · intro h
        split at h
        · cases h
        · next hnone =>
            cases h
            exact ⟨String.toList_ofList.symm, hnone⟩
      · rintro ⟨rfl, hnone⟩
        rw [String.ofList_toList, hnone]

/-- A part can be rendered unless it is a reference to an unknown variable. -/
private theorem Part.exists_render_eq_ok_iff {part : Part} :
    (∃ text, part.render values = .ok text) ↔
      ∀ name : String, part = .reference name.toList → (values.get? name).isSome := by
  constructor
  · rintro ⟨text, htext⟩ name rfl
    rw [Option.isSome_iff_ne_none]
    intro hnone
    have herror := Part.render_eq_error_iff (e := ⟨name⟩).2 ⟨rfl, hnone⟩
    rw [htext] at herror
    cases herror
  · intro h
    cases hrender : part.render values with
    | ok text => exact ⟨text, rfl⟩
    | error e =>
        obtain ⟨rfl, hnone⟩ := Part.render_eq_error_iff.1 hrender
        have hsome := h e.name rfl
        rw [hnone] at hsome
        cases hsome

private theorem Part.render_eq_ok {part : Part} {text : List Char}
    (h : part.render values = .ok text) :
    text = part.replacement values := by
  cases part with
  | character c =>
      cases h
      rfl
  | reference name =>
      rw [Part.render] at h
      split at h
      · next value hvalue =>
          cases h
          rw [Part.replacement, hvalue, Option.getD_some]
      · cases h

/-- Rendered parts stand one after another. -/
private theorem gather_render_eq_ok {ps : List Part} {text : List Char}
    (h : gather (Part.render values) ps = .ok text) :
    text = ps.flatMap (Part.replacement values) := by
  induction ps generalizing text with
  | nil =>
      cases h
      rfl
  | cons part ps ih =>
      rw [gather] at h
      cases hfirst : part.render values with
      | error e => simp [hfirst, bind, Except.bind] at h
      | ok first =>
          cases hrest : gather (Part.render values) ps with
          | error e => simp [hfirst, hrest, bind, Except.bind] at h
          | ok rest =>
              simp only [hfirst, hrest, bind, Except.bind, Except.ok.injEq] at h
              rw [← h, Part.render_eq_ok hfirst, ih hrest, List.flatMap_cons]

/-- The template is rendered from its parts. -/
private theorem render_eq_ok_iff {template text : String} :
    render values template = .ok text ↔
      gather (Part.render values) (parts template.toList) = .ok text.toList := by
  rw [render]
  cases gather (Part.render values) (parts template.toList) with
  | error e => simp [Except.map]
  | ok out =>
      simp only [Except.map, Except.ok.injEq]
      constructor
      · rintro rfl
        rw [String.toList_ofList]
      · rintro rfl
        rw [String.ofList_toList]

private theorem render_eq_error_iff_gather {template : String} {e : UnknownVariable} :
    render values template = .error e ↔
      gather (Part.render values) (parts template.toList) = .error e := by
  rw [render]
  cases gather (Part.render values) (parts template.toList) <;> simp [Except.map]

/-! ## From one reference to the next -/

private theorem references_nil (place : Nat) : references place [] = [] := by rw [references]

private theorem references_reference {name taken : List Char} (h : IsReference name taken)
    (place : Nat) (rest : List Char) :
    references place (taken ++ rest) =
      ⟨place, place + byteLength taken, name⟩ :: references (place + byteLength taken) rest := by
  have hreference : reference? (taken ++ rest) = some (name, rest) :=
    reference?_eq_some_iff.2 ⟨taken, rfl, h⟩
  have hlength : byteLength (taken ++ rest) - byteLength rest = byteLength taken := by
    rw [Text.byteLength_append]
    omega
  obtain ⟨tail, rfl, _⟩ := h.exists_tail
  rw [List.cons_append] at hreference hlength ⊢
  rw [references]
  split
  · next hfound =>
      rw [hreference] at hfound
      cases hfound
      rw [hlength]
  · next hnone =>
      rw [hreference] at hnone
      cases hnone

private theorem references_character {c : Char} {text : List Char}
    (h : reference? (c :: text) = none)
    (place : Nat) : references place (c :: text) = references (place + c.utf8Size) text := by
  rw [references]
  split
  · next hfound =>
      rw [h] at hfound
      cases hfound
  · rfl

/-- What stands behind the last reference is written after what was written before. `plain` are the
characters since then in which no reference began. -/
private theorem renderFrom_references (values : VariableTable) (text : List Char) :
    ∀ template done plain out : List Char, template = done ++ (plain ++ text) →
      renderFrom values template (byteLength done) out
          (references (byteLength done + byteLength plain) text) =
        some ((gather (Part.render values) (parts text)).map fun tail => out ++ plain ++ tail) := by
  induction text using parts_induction with
  | nil =>
      rintro _ done plain out rfl
      rw [references_nil, parts_nil, renderFrom, List.append_nil, Text.sliceFrom?_append]
      simp [gather, Except.map]
  | reference name taken rest h ih =>
      rintro _ done plain out rfl
      rw [references_reference h, parts_reference h, renderFrom, gather]
      cases hvalue : values.get? (String.ofList name) with
      | none => simp [Part.render, hvalue, bind, Except.bind, Except.map]
      | some value =>
          have hplace : byteLength done + byteLength plain + byteLength taken =
              byteLength (done ++ (plain ++ taken)) := by
            simp [Nat.add_assoc]
          have hrest := ih (done ++ (plain ++ (taken ++ rest))) (done ++ (plain ++ taken)) []
            (out ++ plain ++ value.toList) (by simp)
          rw [Text.byteLength_nil, Nat.add_zero] at hrest
          simp only [Text.slice?_append, Option.bind_some, hplace, hrest, Part.render, hvalue]
          cases gather (Part.render values) (parts rest) <;>
            simp [bind, Except.bind, Except.map]
  | character c text h ih =>
      rintro _ done plain out rfl
      have hplace : byteLength done + byteLength plain + c.utf8Size =
          byteLength done + byteLength (plain ++ [c]) := by
        simp [Nat.add_assoc]
      have hrest := ih (done ++ (plain ++ c :: text)) done (plain ++ [c]) out (by simp)
      rw [references_character h, parts_character h, hplace, hrest, gather, Part.render]
      cases gather (Part.render values) (parts text) <;> simp [bind, Except.bind, Except.map]

/-- Copying from one reference to the next loses nothing and repeats nothing, and every slice is one
of the template's. -/
theorem renderSlices_eq (values : VariableTable) (template : String) :
    renderSlices values template = some (render values template) := by
  have hslices := renderFrom_references values template.toList template.toList [] [] [] rfl
  rw [Text.byteLength_nil] at hslices
  rw [renderSlices, hslices, render]
  cases gather (Part.render values) (parts template.toList) <;> simp [Except.map]

/-! ## When a template can be rendered -/

/-- A template refers to a variable. -/
def RefersTo (template name : String) : Prop :=
  ∃ front text back, template.toList = front ++ (text ++ back) ∧ IsReference name.toList text

/-- Of the references in a template to variables that a table does not have, the first from the left
is one to this variable. -/
def FirstUnknown (values : VariableTable) (template name : String) : Prop :=
  ∃ front text back, template.toList = front ++ (text ++ back) ∧ IsReference name.toList text ∧
    values.get? name = none ∧
    ∀ earlier other taken behind, template.toList = earlier ++ (taken ++ behind) →
      IsReference other taken → earlier.length < front.length →
      (values.get? (String.ofList other)).isSome

/-- The references in a template are parts of it. -/
private theorem refersTo_iff {template name : String} :
    RefersTo template name ↔ .reference name.toList ∈ parts template.toList := by
  obtain ⟨pieces, hcut, hparts⟩ := exists_cut template.toList
  rw [hparts, List.mem_map]
  constructor
  · rintro ⟨front, text, back, htemplate, h⟩
    obtain ⟨earlier, later, hpieces, _⟩ := hcut.all front _ text back htemplate h
    exact ⟨(.reference name.toList, text), by simp [hpieces], rfl⟩
  · rintro ⟨⟨part, text⟩, hpiece, rfl⟩
    obtain ⟨earlier, later, rfl⟩ := List.append_of_mem hpiece
    cases hcut.spells _ hpiece with
    | reference h =>
        refine ⟨earlier.flatMap (·.2), text, later.flatMap (·.2), ?_, h⟩
        rw [hcut.whole, List.flatMap_append, List.flatMap_cons]

/-- A template can be rendered when all variables that it refers to are known. -/
theorem exists_render_eq_ok_iff {template : String} :
    (∃ text, render values template = .ok text) ↔
      ∀ name, RefersTo template name → (values.get? name).isSome := by
  have hgather : (∃ text, render values template = .ok text) ↔
      ∃ out, gather (Part.render values) (parts template.toList) = .ok out := by
    constructor
    · rintro ⟨text, htext⟩
      exact ⟨_, render_eq_ok_iff.1 htext⟩
    · rintro ⟨out, hout⟩
      exact ⟨String.ofList out, render_eq_ok_iff.2 (by rw [String.toList_ofList, hout])⟩
  rw [hgather, exists_gather_eq_ok_iff]
  constructor
  · intro h name hname
    exact Part.exists_render_eq_ok_iff.1 (h _ (refersTo_iff.1 hname)) name rfl
  · intro h part hpart
    refine Part.exists_render_eq_ok_iff.2 fun name hname => h name (refersTo_iff.2 ?_)
    rwa [← hname]

/-- The references among the first pieces of a template are those that begin in front of the
others. -/
private theorem Cut.mem_front_iff {template : List Char} {front back : List (Part × List Char)}
    (hcut : Cut template (front ++ back)) {name : List Char} :
    .reference name ∈ front.map (·.1) ↔
      ∃ earlier taken behind, template = earlier ++ (taken ++ behind) ∧ IsReference name taken ∧
        earlier.length < (front.flatMap (·.2)).length := by
  constructor
  · intro hmem
    obtain ⟨⟨part, taken⟩, hpiece, rfl⟩ := List.mem_map.1 hmem
    have hspells := hcut.spells _ (List.mem_append_left back hpiece)
    obtain ⟨first, last, rfl⟩ := List.append_of_mem hpiece
    cases hspells with
    | reference h =>
        have hlength : 0 < taken.length := List.length_pos_iff.2 h.ne_nil
        refine ⟨first.flatMap (·.2), taken, last.flatMap (·.2) ++ back.flatMap (·.2), ?_, h, ?_⟩
        · simpa using hcut.whole
        · simp only [List.flatMap_append, List.flatMap_cons, List.length_append]
          omega
  · rintro ⟨earlier, taken, behind, htemplate, h, hlength⟩
    obtain ⟨first, last, hpieces, rfl⟩ := hcut.all earlier name taken behind htemplate h
    rcases List.append_eq_append_iff.1 hpieces with ⟨more, rfl, _⟩ | ⟨more, rfl, hmore⟩
    · rw [List.flatMap_append, List.length_append] at hlength
      omega
    · cases more with
      | nil =>
          rw [List.append_nil] at hlength
          exact absurd hlength (Nat.lt_irrefl _)
      | cons piece more =>
          rw [List.cons_append, List.cons.injEq] at hmore
          rw [← hmore.1]
          simp

/-- A template fails with the first unknown variable. -/
theorem render_eq_error_iff_firstUnknown {template : String} {e : UnknownVariable} :
    render values template = .error e ↔ FirstUnknown values template e.name := by
  obtain ⟨pieces, hcut, hparts⟩ := exists_cut template.toList
  rw [render_eq_error_iff_gather, gather_eq_error_iff, hparts]
  constructor
  · rintro ⟨before, part, after, hsplit, hknown, hpart⟩
    obtain ⟨front, rest, rfl, rfl, hrest⟩ := List.map_eq_append_iff.1 hsplit
    obtain ⟨⟨part, text⟩, back, rfl, rfl, rfl⟩ := List.map_eq_cons_iff.1 hrest
    obtain ⟨rfl, hnone⟩ := Part.render_eq_error_iff.1 hpart
    cases hcut.spells _ (List.mem_append_right front List.mem_cons_self) with
    | reference h =>
        refine ⟨front.flatMap (·.2), text, back.flatMap (·.2), ?_, h, hnone, ?_⟩
        · rw [hcut.whole, List.flatMap_append, List.flatMap_cons]
        · intro earlier other taken behind htemplate hother hlength
          have hmem := hcut.mem_front_iff.2 ⟨earlier, taken, behind, htemplate, hother, hlength⟩
          exact Part.exists_render_eq_ok_iff.1 (hknown _ hmem) _ (by rw [String.toList_ofList])
  · rintro ⟨_, text, behind, htemplate, h, hnone, hfirst⟩
    obtain ⟨front, back, rfl, rfl⟩ := hcut.all _ _ text behind htemplate h
    refine ⟨front.map (·.1), .reference e.name.toList, back.map (·.1), by simp, ?_,
      Part.render_eq_error_iff.2 ⟨rfl, hnone⟩⟩
    intro part hpart
    refine Part.exists_render_eq_ok_iff.2 fun name hname => ?_
    subst hname
    obtain ⟨earlier, taken, behind, hwhole, hother, hlength⟩ := hcut.mem_front_iff.1 hpart
    have hsome := hfirst earlier _ taken behind hwhole hother hlength
    rwa [String.ofList_toList] at hsome

/-- What rendering a template comes to. -/
structure SubstitutesOnce (values : VariableTable) (template : String) : Prop where
  succeeds_iff : (∃ text, render values template = .ok text) ↔
    ∀ name, RefersTo template name → (values.get? name).isSome
  fails_iff : ∀ e, render values template = .error e ↔ FirstUnknown values template e.name
  cut : ∃ pieces, Cut template.toList pieces
  /-- References are replaced by values, which are not read again, and all else is copied. -/
  replaces : ∀ text pieces, render values template = .ok text → Cut template.toList pieces →
    text.toList = pieces.flatMap fun piece => piece.1.replacement values
  joins : ∀ first second, template = first ++ second →
    ¬ SeamCuts first.toList second.toList →
    render values template = (do
      let front ← render values first
      let back ← render values second
      .ok (front ++ back))
  slices : renderSlices values template = some (render values template)

/-- Rendering replaces every reference of a template once. -/
theorem render_substitutesOnce (values : VariableTable) (template : String) :
    SubstitutesOnce values template where
  succeeds_iff := exists_render_eq_ok_iff
  fails_iff e := render_eq_error_iff_firstUnknown
  cut := (exists_cut template.toList).imp fun _ h => h.1
  replaces text pieces htext hcut := by
    rw [gather_render_eq_ok (render_eq_ok_iff.1 htext), ← hcut.map_eq_parts, List.flatMap_map]
  joins first second htemplate hseam := by
    rw [htemplate, render, String.toList_append, parts_append hseam, gather_append, render, render]
    cases gather (Part.render values) (parts first.toList) with
    | error e => rfl
    | ok front =>
        cases gather (Part.render values) (parts second.toList) with
        | error e => rfl
        | ok back => simp [bind, Except.bind, Except.map, String.ofList_append]
  slices := renderSlices_eq values template

-- A value is not read again, and braces around anything but a name stay as they are.
example :
    render ⟨.ofList [("a", "${b}"), ("b", "x")]⟩ "${a}$${ b }${a b}" = .ok "${b}$x${a b}" := by
  cbv

end ClusterEvidence.Directive
