import ClusterEvidence.Filter.Run
import ClusterEvidence.Proofs.Filter.DepthFirst
import ClusterEvidence.Proofs.Keyed

/-!
# Assigning is setting

What an assignment puts in is what its path leads to afterwards, a second assignment to the same
path forgets the first one, and a path that parts from it leads where it led before. This holds
although an assignment makes what is missing on its way: null behaves as the empty container that
takes its place, and an array that grows only gets nulls, to which every index behind its end led
before.

A step that does not iterate opens a value at one part of it (`Opens`), and what is assigned below
takes the place of that part. All that is shown of such a step is shown of the opening, once for
members and once for items; paths follow by induction over their steps.

## Main results

* `place_spec` — where an index leads after the array has grown to it.
* `exists_opens` — an assignment opens the value at its first step.
* `select_assign`, `exists_assign_again`, `select_assign_of_partsFrom` — the laws of a setter.
* `assign_isAssigned` — what an assignment does, at its path and elsewhere.
-/

namespace ClusterEvidence.Filter

open Json (null array object)

/-! ## Items -/

/-- The item that an index leads to. -/
def itemAt (position : Int) (items : List Json) : Json :=
  ((resolve position items.length).bind fun i => items[i]?).getD null

private theorem resolve_of_neg {position : Int} (h : position < 0) {size i : Nat}
    (hresolve : resolve position size = some i) : (i : Int) = size + position ∧ i < size := by
  unfold resolve at hresolve
  simp only [h, if_true] at hresolve
  split at hresolve
  · next hbounds =>
      cases hresolve
      omega
  · cases hresolve

theorem resolve_of_nonneg {position : Int} (h : 0 ≤ position) (size : Nat) :
    resolve position size = if position.toNat < size then some position.toNat else none := by
  unfold resolve
  have hneg : ¬ position < 0 := by omega
  simp only [hneg, if_false]
  by_cases hlt : position.toNat < size
  · rw [if_pos hlt, if_pos (by omega)]
  · rw [if_neg hlt, if_neg (by omega)]

/-- A place that an index resolves to is within the array. -/
private theorem lt_of_resolve {position : Int} {size i : Nat} (h : resolve position size = some i) :
    i < size := by
  by_cases hneg : position < 0
  · exact (resolve_of_neg hneg h).2
  · rw [resolve_of_nonneg (by omega)] at h
    split at h
    · cases h
      assumption
    · cases h

/-- An index that does not count from the end leads to the item of that number. -/
private theorem itemAt_of_nonneg {position : Int} (h : 0 ≤ position) (items : List Json) :
    itemAt position items = items[position.toNat]?.getD null := by
  rw [itemAt, resolve_of_nonneg h]
  by_cases hlt : position.toNat < items.length
  · rw [if_pos hlt]
    rfl
  · rw [if_neg hlt, List.getElem?_eq_none (by omega)]
    rfl

/-- Nulls at the end of an array are what an index behind its end leads to anyway. -/
private theorem getD_append_nulls (items : List Json) (count i : Nat) :
    (items ++ List.replicate count null)[i]?.getD null = items[i]?.getD null := by
  by_cases hlt : i < items.length
  · rw [List.getElem?_append_left hlt]
  · rw [List.getElem?_append_right (by omega), List.getElem?_replicate,
      List.getElem?_eq_none (show items.length ≤ i by omega)]
    split <;> rfl

/-- Where an index leads after the array has grown to it. -/
theorem place_spec {position : Int} {items grown : List Json} {i : Nat}
    (h : place position items = .ok (i, grown)) :
    resolve position grown.length = some i ∧ (0 ≤ position → i = position.toNat) ∧
      itemAt position items = grown[i]?.getD null ∧
      ∀ j : Nat, grown[j]?.getD null = items[j]?.getD null := by
  unfold place at h
  cases hresolve : resolve position items.length with
  | some found =>
      simp only [hresolve, Except.ok.injEq, Prod.mk.injEq] at h
      obtain ⟨rfl, rfl⟩ := h
      refine ⟨hresolve, fun hpos => ?_, by rw [itemAt, hresolve]; rfl, fun j => rfl⟩
      rw [resolve_of_nonneg hpos] at hresolve
      split at hresolve
      · cases hresolve
        rfl
      · cases hresolve
  | none =>
      simp only [hresolve] at h
      split at h
      · cases h
      · split at h
        · next hpos =>
            cases h
            rw [resolve_of_nonneg hpos] at hresolve
            have hend : items.length ≤ position.toNat := by
              by_cases hlt : position.toNat < items.length
              · rw [if_pos hlt] at hresolve
                cases hresolve
              · omega
            have hlength : position.toNat <
                (items ++ List.replicate (position.toNat + 1 - items.length) null).length := by
              rw [List.length_append, List.length_replicate]
              omega
            refine ⟨?_, fun _ => rfl, ?_, fun j => getD_append_nulls items _ j⟩
            · rw [resolve_of_nonneg hpos, if_pos hlength]
            · rw [itemAt_of_nonneg hpos, getD_append_nulls]
        · cases h

/-! ## One step of an assignment -/

/-- Two steps lead to different members, or to different items counted from the start. -/
inductive Step.Parts : Step → Step → Prop where
  | field {key other : String} (h : key ≠ other) : Parts (.field key) (.field other)
  | index {position other : Int} (h : 0 ≤ position) (hother : 0 ≤ other) (hne : position ≠ other) :
      Parts (.index position) (.index other)

/-- A step opens a value at a part of it, and the value is closed again with another part in its
place. -/
structure Opens (step : Step) (value part : Json) (close : Json → Json) : Prop where
  leads : step.apply value = .ok [part]
  leadsBack : ∀ new, step.apply (close new) = .ok [new]
  /-- What is assigned below the step takes the place of the part. -/
  assigns : ∀ literal steps,
    assign literal (step :: steps) value = (assign literal steps part).map close
  /-- The closed value opens at the new part and closes in the same way. -/
  assignsAgain : ∀ new literal steps,
    assign literal (step :: steps) (close new) = (assign literal steps new).map close
  keeps : ∀ other, step.Parts other → ∀ new, other.apply (close new) = other.apply value

private theorem opens_member (key : String) (members : List (String × Json)) :
    Opens (.field key) (object members) ((Entries.get? key members).getD null)
      (fun new => object (Entries.insert key new members)) where
  leads := rfl
  leadsBack := by
    intro new
    rw [Step.apply, Entries.get?_insert_self]
    rfl
  assigns := by
    intro literal steps
    rfl
  assignsAgain := by
    intro new literal steps
    simp only [assign, Entries.get?_insert_self, Entries.insert_insert]
    rfl
  keeps := by
    intro other hparts new
    cases hparts with
    | field hne => rw [Step.apply, Step.apply, Entries.get?_insert_ne hne]

private theorem opens_item {position : Int} {items grown : List Json} {i : Nat}
    (h : place position items = .ok (i, grown)) :
    Opens (.index position) (array items) (grown[i]?.getD null)
      (fun new => array (grown.set i new)) := by
  obtain ⟨hresolve, hplace, hitem, hgrown⟩ := place_spec h
  have hlt : i < grown.length := lt_of_resolve hresolve
  have hset (new : Json) : place position (grown.set i new) = .ok (i, grown.set i new) := by
    rw [place, List.length_set, hresolve]
  have hfound (new : Json) : (grown.set i new)[i]? = some new := List.getElem?_set_self hlt
  refine
    { leads := ?_
      leadsBack := ?_
      assigns := ?_
      assignsAgain := ?_
      keeps := ?_ }
  · show Except.ok [itemAt position items] = _
    rw [hitem]
  · intro new
    show Except.ok [itemAt position (grown.set i new)] = _
    rw [itemAt, List.length_set, hresolve, Option.bind_some, hfound]
    rfl
  · intro literal steps
    rw [assign]
    simp only [h]
    rfl
  · intro new literal steps
    rw [assign]
    simp only [hset, bind, Except.bind, hfound, Option.getD_some, List.set_set]
    rfl
  · intro other hparts new
    cases hparts with
    | @index _ j hpos hother hne =>
        show Except.ok [itemAt j (grown.set i new)] = Except.ok [itemAt j items]
        have hother' : i ≠ j.toNat := by
          have := hplace hpos
          omega
        rw [itemAt_of_nonneg hother, itemAt_of_nonneg hother, List.getElem?_set_ne hother', hgrown]

/-- Null opens as the empty container of its step. -/
private theorem Opens.of_empty {step : Step} {empty part : Json} {close : Json → Json}
    (h : Opens step empty part close)
    (hassign : ∀ literal steps, assign literal (step :: steps) null =
      assign literal (step :: steps) empty)
    (happly : ∀ other, other = step ∨ step.Parts other → other.apply null = other.apply empty) :
    Opens step null part close where
  leads := by rw [happly step (.inl rfl), h.leads]
  leadsBack := h.leadsBack
  assigns := by
    intro literal steps
    rw [hassign, h.assigns]
  assignsAgain := h.assignsAgain
  keeps := by
    intro other hparts new
    rw [happly other (.inr hparts), h.keeps other hparts]

/-- Null is assigned below a key as an object without members. -/
private theorem opens_member_null (key : String) :
    Opens (.field key) null null (fun new => object [(key, new)]) := by
  have hopens : Opens (.field key) (object []) null (fun new => object [(key, new)]) :=
    opens_member key []
  apply hopens.of_empty
  · intro literal steps
    rfl
  · intro other hother
    rcases hother with rfl | hparts
    · rfl
    · cases hparts
      rfl

/-- Null is assigned below an index as an array without items. -/
private theorem opens_item_null {position : Int} {grown : List Json} {i : Nat}
    (h : place position [] = .ok (i, grown)) :
    Opens (.index position) null null (fun new => array (grown.set i new)) := by
  have hopens := opens_item h
  have hpart : grown[i]?.getD null = null := by
    obtain ⟨_, _, _, hgrown⟩ := place_spec h
    rw [hgrown]
    rfl
  rw [hpart] at hopens
  have hempty (other : Int) : Step.apply (.index other) (array []) = .ok [null] := by
    show Except.ok [itemAt other []] = _
    unfold itemAt
    cases resolve other 0 <;> rfl
  apply hopens.of_empty
  · intro literal steps
    rw [assign, assign]
    simp only [h, bind, Except.bind, hpart]
  · intro other hother
    rcases hother with rfl | hparts
    · rw [hempty]
      rfl
    · cases hparts
      rw [hempty]
      rfl

/-- An assignment opens the value at its first step, unless it iterates there. -/
theorem exists_opens {step : Step} (hstep : step ≠ .iterate) {literal value new : Json}
    {steps : List Step} (h : assign literal (step :: steps) value = .ok new) :
    ∃ part close, Opens step value part close := by
  cases step with
  | iterate => exact absurd rfl hstep
  | field key =>
      cases value with
      | null => exact ⟨_, _, opens_member_null key⟩
      | object members => exact ⟨_, _, opens_member key members⟩
      | _ => cases h
  | index position =>
      have hfails {items : List Json} {fault : RunFault}
          (hplace : place position items = .error fault)
          (rest : Nat × List Json → Except RunFault Json) :
          (place position items >>= rest) ≠ .ok new := by
        rw [hplace]
        intro hok
        cases hok
      cases value with
      | null =>
          cases hplace : place position [] with
          | error fault => exact absurd h (hfails hplace _)
          | ok found => exact ⟨_, _, opens_item_null hplace⟩
      | array items =>
          cases hplace : place position items with
          | error fault => exact absurd h (hfails hplace _)
          | ok found => exact ⟨_, _, opens_item hplace⟩
      | _ => cases h

/-! ## Iteration -/

/-- A change of the value of a member. -/
def onValue (f : Json → Except RunFault Json) (member : String × Json) :
    Except RunFault (String × Json) :=
  (f member.2).map fun new => (member.1, new)

private theorem assign_items (literal : Json) (steps : List Step) (items : List Json) :
    assign literal (.iterate :: steps) (array items) =
      (mapAll (assign literal steps) items).map array := rfl

private theorem assign_members (literal : Json) (steps : List Step)
    (members : List (String × Json)) :
    assign literal (.iterate :: steps) (object members) =
      (mapAll (onValue (assign literal steps)) members).map object := rfl

/-- What an assignment to all items or all members comes to; null is left as it is. -/
inductive AssignsEach (f : Json → Except RunFault Json) : Json → Json → Prop where
  | null : AssignsEach f null null
  | items {items news : List Json} (h : mapAll f items = .ok news) :
      AssignsEach f (array items) (array news)
  | members {members news : List (String × Json)} (h : mapAll (onValue f) members = .ok news) :
      AssignsEach f (object members) (object news)

private theorem assign_iterate {literal value new : Json} {steps : List Step}
    (h : assign literal (.iterate :: steps) value = .ok new) :
    AssignsEach (assign literal steps) value new := by
  cases value with
  | null =>
      cases h
      exact .null
  | array items =>
      rw [assign_items] at h
      obtain ⟨news, hnews, rfl⟩ := exists_of_map_eq_ok h
      exact .items hnews
  | object members =>
      rw [assign_members] at h
      obtain ⟨news, hnews, rfl⟩ := exists_of_map_eq_ok h
      exact .members hnews
  | _ => cases h

/-! ## Paths -/

/-- From their first difference on, two paths lead to different members or items. -/
inductive PartsFrom : List Step → List Step → Prop where
  | here {step other : Step} (h : step.Parts other) (steps others : List Step) :
      PartsFrom (step :: steps) (other :: others)
  | there (step : Step) {steps others : List Step} (h : PartsFrom steps others) :
      PartsFrom (step :: steps) (step :: others)

variable {literal value new : Json} {steps : List Step}

theorem select_cons (step : Step) (steps : List Step) (value : Json) :
    select (step :: steps) value = step.apply value >>= selectAll steps := by
  rw [select, selectAll, gather_singleton]

/-- Behind a step that leads to one value, a path goes on from that value. -/
theorem select_of_apply {step : Step} {part : Json} (h : step.apply value = .ok [part])
    (steps : List Step) : select (step :: steps) value = select steps part := by
  rw [select_cons, h]
  rfl

/-- A path without iteration leads to what was assigned to it. -/
theorem select_assign (h : assign literal steps value = .ok new) (hone : .iterate ∉ steps) :
    select steps new = .ok [literal] := by
  induction steps generalizing value new with
  | nil =>
      cases h
      rfl
  | cons step steps ih =>
      have hstep := List.ne_of_not_mem_cons hone
      obtain ⟨part, close, hopens⟩ := exists_opens (Ne.symm hstep) h
      rw [hopens.assigns] at h
      obtain ⟨inner, hinner, rfl⟩ := exists_of_map_eq_ok h
      rw [select_of_apply (hopens.leadsBack inner)]
      exact ih hinner (List.not_mem_of_not_mem_cons hone)

/-- Whatever a path leads to after an assignment to it is the literal. -/
private theorem eq_of_mem_select_assign (h : assign literal steps value = .ok new)
    {values : List Json}
    (hselect : select steps new = .ok values) {found : Json} (hfound : found ∈ values) :
    found = literal := by
  induction steps generalizing value new values with
  | nil =>
      cases h
      cases hselect
      exact List.mem_singleton.1 hfound
  | cons step steps ih =>
      by_cases hstep : step = .iterate
      · subst hstep
        -- Every value that the step leads to is one that was assigned below it.
        have hbelow {news : List Json} (hvalues : selectAll steps news = .ok values)
            (hnews : ∀ inner ∈ news, ∃ old, assign literal steps old = .ok inner) :
            found = literal := by
          have hgather := (gather_select steps news values).2 hvalues
          obtain ⟨inner, hinner, part, hpart, hmem⟩ := exists_of_mem_gather hgather hfound
          obtain ⟨old, hold⟩ := hnews inner hinner
          exact ih hold hpart hmem
        rw [select_cons] at hselect
        cases assign_iterate h with
        | null => cases hselect
        | items hitems =>
            apply hbelow hselect
            intro inner hinner
            obtain ⟨old, _, hold⟩ := exists_of_mem_mapAll hitems hinner
            exact ⟨old, hold⟩
        | members hmembers =>
            apply hbelow hselect
            intro inner hinner
            obtain ⟨member, hmember, rfl⟩ := List.mem_map.1 hinner
            obtain ⟨old, _, hold⟩ := exists_of_mem_mapAll hmembers hmember
            obtain ⟨inner, hassign, rfl⟩ := exists_of_map_eq_ok hold
            exact ⟨old.2, hassign⟩
      · obtain ⟨part, close, hopens⟩ := exists_opens hstep h
        rw [hopens.assigns] at h
        obtain ⟨inner, hinner, rfl⟩ := exists_of_map_eq_ok h
        rw [select_of_apply (hopens.leadsBack inner)] at hselect
        exact ih hinner hselect hfound

/-- Where one literal could be assigned, so can another one, and it does not matter whether the
first one was. -/
theorem exists_assign_again (h : assign literal steps value = .ok new) (other : Json) :
    ∃ last, assign other steps value = .ok last ∧ assign other steps new = .ok last := by
  induction steps generalizing value new with
  | nil => exact ⟨other, rfl, rfl⟩
  | cons step steps ih =>
      by_cases hstep : step = .iterate
      · subst hstep
        cases assign_iterate h with
        | null => exact ⟨null, rfl, rfl⟩
        | items hitems =>
            obtain ⟨lasts, hfirst, hagain⟩ := exists_mapAll_again hitems fun _ _ hitem => ih hitem
            refine ⟨array lasts, ?_, ?_⟩
            · rw [assign_items, hfirst]
              rfl
            · rw [assign_items, hagain]
              rfl
        | members hmembers =>
            have hmember (member new : String × Json)
                (hassign : onValue (assign literal steps) member = .ok new) :
                ∃ last, onValue (assign other steps) member = .ok last ∧
                  onValue (assign other steps) new = .ok last := by
              obtain ⟨inner, hinner, rfl⟩ := exists_of_map_eq_ok hassign
              obtain ⟨last, hfirst, hagain⟩ := ih hinner
              refine ⟨(member.1, last), ?_, ?_⟩
              · rw [onValue, hfirst]
                rfl
              · rw [onValue, hagain]
                rfl
            obtain ⟨lasts, hfirst, hagain⟩ := exists_mapAll_again hmembers hmember
            refine ⟨object lasts, ?_, ?_⟩
            · rw [assign_members, hfirst]
              rfl
            · rw [assign_members, hagain]
              rfl
      · obtain ⟨part, close, hopens⟩ := exists_opens hstep h
        rw [hopens.assigns] at h
        obtain ⟨inner, hinner, rfl⟩ := exists_of_map_eq_ok h
        obtain ⟨last, hfirst, hagain⟩ := ih hinner
        refine ⟨close last, ?_, ?_⟩
        · rw [hopens.assigns, hfirst]
          rfl
        · rw [hopens.assignsAgain, hagain]
          rfl

/-- A path that parts from the one that was assigned to leads where it led before. -/
theorem select_assign_of_partsFrom (h : assign literal steps value = .ok new)
    (hone : .iterate ∉ steps) {others : List Step} (hparts : PartsFrom steps others) :
    select others new = select others value := by
  induction hparts generalizing value new with
  | here hstep steps others =>
      have hiterate := List.ne_of_not_mem_cons hone
      obtain ⟨part, close, hopens⟩ := exists_opens (Ne.symm hiterate) h
      rw [hopens.assigns] at h
      obtain ⟨inner, _, rfl⟩ := exists_of_map_eq_ok h
      rw [select_cons, select_cons, hopens.keeps _ hstep]
  | there step _ ih =>
      have hiterate := List.ne_of_not_mem_cons hone
      obtain ⟨part, close, hopens⟩ := exists_opens (Ne.symm hiterate) h
      rw [hopens.assigns] at h
      obtain ⟨inner, hinner, rfl⟩ := exists_of_map_eq_ok h
      rw [select_of_apply (hopens.leadsBack inner), select_of_apply hopens.leads]
      exact ih hinner (List.not_mem_of_not_mem_cons hone)

/-! ## What an assignment does -/

/-- A value that was assigned to at a path: what the path leads to, what a further assignment to it
comes to, and what other paths lead to. -/
structure IsAssigned (steps : List Step) (literal value new : Json) : Prop where
  selects : .iterate ∉ steps → select steps new = .ok [literal]
  /-- A path that iterates, too, leads to nothing but the literal where it can be followed. -/
  selectsOnly : ∀ values, select steps new = .ok values → ∀ found ∈ values, found = literal
  /-- A further assignment succeeds, and forgets the first one. -/
  overwrites : ∀ other, ∃ last,
    assign other steps value = .ok last ∧ assign other steps new = .ok last
  keeps : .iterate ∉ steps → ∀ others, PartsFrom steps others →
    select others new = select others value

/-- An assignment that succeeds sets what its path leads to and keeps what is elsewhere. -/
theorem assign_isAssigned (h : assign literal steps value = .ok new) :
    IsAssigned steps literal value new where
  selects hone := select_assign h hone
  selectsOnly _ hvalues _ hfound := eq_of_mem_select_assign h hvalues hfound
  overwrites other := exists_assign_again h other
  keeps hone _ hparts := select_assign_of_partsFrom h hone hparts

/-- The last item of an array is null, becomes an array itself and grows. -/
theorem assign_isAssigned_grown :
    assign (.string "x") [.field "a", .index (-1), .index 1, .field "b"]
        (object [("a", array [.bool true, null]), ("c", null)]) =
      .ok (object [("a", array [.bool true, array [null, object [("b", .string "x")]]]),
        ("c", null)]) ∧
    IsAssigned [.field "a", .index (-1), .index 1, .field "b"] (.string "x")
      (object [("a", array [.bool true, null]), ("c", null)])
      (object [("a", array [.bool true, array [null, object [("b", .string "x")]]]),
        ("c", null)]) :=
  ⟨by rfl, assign_isAssigned (by rfl)⟩

end ClusterEvidence.Filter
