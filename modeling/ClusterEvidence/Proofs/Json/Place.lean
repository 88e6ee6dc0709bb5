import ClusterEvidence.Proofs.Json.Edit
import ClusterEvidence.Proofs.Json.Printable

/-!
# A change at one place

What a change at one place does to a document is said by look-ups: on the way to the place there are
objects, each of which keeps all its members but the one that the way goes through (`DiffersAt`).
For a canonical document the look-ups say everything.

## Main results

* `differsAt_update` — a change at a place changes nothing elsewhere.
* `update_self` — putting in what is there changes nothing.
* `canonical_update` — a document stays canonical.
-/

namespace ClusterEvidence.Json

open Pointer (follow? step? update)

/-- Members with the same values under all keys but one. -/
def AlikeExcept (key : String) (a b : List (String × Json)) : Prop :=
  ∀ other, other ≠ key → Entries.get? other a = Entries.get? other b

/-- Two values that differ at one place only, and how what stands there differs. -/
inductive DiffersAt (R : Json → Json → Prop) : List String → Json → Json → Prop where
  | here {a b : Json} (h : R a b) : DiffersAt R [] a b
  | member {key : String} {path : List String} {a b : List (String × Json)} {x y : Json}
      (helsewhere : AlikeExcept key a b) (ha : Entries.get? key a = some x)
      (hb : Entries.get? key b = some y) (h : DiffersAt R path x y) :
      DiffersAt R (key :: path) (object a) (object b)

variable {R : Json → Json → Prop} {path : List String} {value found : Json} {f : Json → Json}

/-- In both values there is something at the place. -/
theorem DiffersAt.exists_follow? {a b : Json} (h : DiffersAt R path a b) :
    ∃ x y, follow? path a = some x ∧ follow? path b = some y ∧ R x y := by
  induction h with
  | here h => exact ⟨_, _, rfl, rfl, h⟩
  | @member key path a b x y _ ha hb _ ih =>
      obtain ⟨found, other, hfound, hother, hR⟩ := ih
      refine ⟨found, other, ?_, ?_, hR⟩
      · rw [Printable.follow?_cons, step?, ha]
        exact hfound
      · rw [Printable.follow?_cons, step?, hb]
        exact hother

/-- A change at a place changes nothing elsewhere. -/
theorem differsAt_update (hkeys : ∀ key ∈ path, Pointer.index? key = none)
    (h : follow? path value = some found) (hR : R found (f found)) :
    DiffersAt R path value (update f path value) := by
  induction path generalizing value with
  | nil =>
      obtain rfl : value = found := Option.some.inj h
      exact .here hR
  | cons key path ih =>
      rw [Printable.follow?_cons] at h
      obtain ⟨child, hstep, hrest⟩ := Option.bind_eq_some_iff.1 h
      cases value with
      | object members =>
          have hget : Entries.get? key members = some child := hstep
          have hbelow := ih (fun k hk => hkeys k (List.mem_cons_of_mem _ hk)) hrest
          rw [update, hget]
          refine .member ?_ hget (Entries.get?_insert_self key _ members) hbelow
          intro other hne
          rw [Entries.get?_insert_ne (Ne.symm hne)]
      | array items =>
          rw [step?, hkeys key List.mem_cons_self] at hstep
          cases hstep
      | _ => cases hstep

/-- What stands in a canonical document is canonical. -/
theorem canonical_of_step? {key : String} (hvalue : Canonical value)
    (h : step? key value = some found) : Canonical found := by
  cases value with
  | object members => exact hvalue.2.get? h
  | array items =>
      obtain ⟨i, _, hget⟩ := Option.bind_eq_some_iff.1 h
      exact canonicalItems_iff.1 hvalue found (List.mem_of_getElem? hget)
  | _ => cases h

theorem canonical_of_follow? (hvalue : Canonical value) (h : follow? path value = some found) :
    Canonical found := by
  induction path generalizing value with
  | nil =>
      obtain rfl : value = found := Option.some.inj h
      exact hvalue
  | cons key path ih =>
      rw [Printable.follow?_cons] at h
      obtain ⟨child, hstep, hrest⟩ := Option.bind_eq_some_iff.1 h
      exact ih (canonical_of_step? hvalue hstep) hrest

/-- A change at one place of a canonical document. -/
theorem canonical_update (hvalue : Canonical value)
    (hf : ∀ found, follow? path value = some found → Canonical (f found)) :
    Canonical (update f path value) := by
  induction path generalizing value with
  | nil => exact hf value rfl
  | cons key path ih =>
      have hbelow {child : Json} (hstep : step? key value = some child) :
          Canonical (update f path child) := by
        apply ih (canonical_of_step? hvalue hstep)
        intro found hfollow
        apply hf
        rw [Printable.follow?_cons, hstep]
        exact hfollow
      cases value with
      | object members =>
          rw [update]
          split
          · next child hget =>
              exact ⟨hvalue.1.insert key _, hvalue.2.insert key (hbelow hget)⟩
          · exact hvalue
      | array items =>
          rw [update]
          split
          · next i hindex =>
              split
              · next child hget =>
                  have hstep : step? key (array items) = some child := by
                    rw [step?, hindex]
                    exact hget
                  apply canonicalItems_iff.2
                  intro item hitem
                  rcases List.mem_or_eq_of_mem_set hitem with hold | rfl
                  · exact canonicalItems_iff.1 hvalue item hold
                  · exact hbelow hstep
              · exact hvalue
          · exact hvalue
      | _ => exact hvalue

/-- Putting in what is there changes nothing. -/
theorem update_self (hvalue : Canonical value) (h : follow? path value = some found) :
    update (fun _ => found) path value = value := by
  induction path generalizing value with
  | nil => exact (Option.some.inj h).symm
  | cons key path ih =>
      rw [Printable.follow?_cons] at h
      obtain ⟨child, hstep, hrest⟩ := Option.bind_eq_some_iff.1 h
      have hsame := ih (canonical_of_step? hvalue hstep) hrest
      cases value with
      | object members =>
          have hget : Entries.get? key members = some child := hstep
          have hput := hvalue.1.put_get? key
          rw [hget, Entries.put] at hput
          rw [update, hget]
          dsimp only
          rw [hsame, hput]
      | array items =>
          obtain ⟨i, hindex, hget⟩ := Option.bind_eq_some_iff.1 hstep
          rw [update, hindex]
          dsimp only
          rw [hget]
          dsimp only
          rw [hsame]
          obtain ⟨hlt, rfl⟩ := List.getElem?_eq_some_iff.1 hget
          rw [List.set_getElem_self]
      | _ => cases hstep

end ClusterEvidence.Json
