import ClusterEvidence.Json.Pointer
import ClusterEvidence.Proofs.Json.Layout

/-!
# Values that can be printed

A canonical value within the bounds of the reader is read back from its text, whatever the layout
(`Printable`). It stays one when a member is put in or dropped, when an item is replaced, and when
the place that a pointer leads to is changed for something that fits there.

## Main results

* `Printable.array_iff` — an array can be printed when its items can, with less room.
* `Printable.update` — a change at one place.
-/

namespace ClusterEvidence.Json

/-- A value that is read back from its text where there is room for so many levels of nesting. -/
structure Printable (room : Nat) (value : Json) : Prop where
  canonical : Canonical value
  within : Within Number.ReadsBack room value

theorem CanonicalMembers.erase {members : List (String × Json)} (h : CanonicalMembers members)
    (key : String) : CanonicalMembers (Entries.erase key members) :=
  canonicalMembers_iff.2 fun member hmember =>
    canonicalMembers_iff.1 h member (List.mem_filter.1 hmember).1

theorem WithinMembers.erase {p : Number → Prop} {room : Nat} {members : List (String × Json)}
    (h : WithinMembers p room members) (key : String) :
    WithinMembers p room (Entries.erase key members) :=
  withinMembers_iff.2 fun member hmember =>
    withinMembers_iff.1 h member (List.mem_filter.1 hmember).1

namespace Printable

variable {room : Nat} {value : Json} {key : String} {members : List (String × Json)}
  {items : List Json}

theorem string (s : String) : Printable room (string s) := ⟨trivial, trivial⟩

/-- An array can be printed when its items can, with less room. -/
theorem array_iff :
    Printable room (array items) ↔ 0 < room ∧ ∀ item ∈ items, Printable (room - 1) item := by
  constructor
  · rintro ⟨hcanonical, hroom, hwithin⟩
    exact ⟨hroom, fun item hitem =>
      ⟨canonicalItems_iff.1 hcanonical item hitem, withinItems_iff.1 hwithin item hitem⟩⟩
  · rintro ⟨hroom, h⟩
    exact ⟨canonicalItems_iff.2 fun item hitem => (h item hitem).canonical,
      hroom, withinItems_iff.2 fun item hitem => (h item hitem).within⟩

theorem get? (h : Printable room (object members)) (hget : Entries.get? key members = some value) :
    Printable (room - 1) value :=
  ⟨h.canonical.2.get? hget, h.within.2.get? hget⟩

theorem insert (h : Printable room (object members)) (key : String)
    (hvalue : Printable (room - 1) value) :
    Printable room (object (Entries.insert key value members)) :=
  ⟨⟨h.canonical.1.insert key value, h.canonical.2.insert key hvalue.canonical⟩,
    h.within.1, h.within.2.insert key hvalue.within⟩

theorem erase (h : Printable room (object members)) (key : String) :
    Printable room (object (Entries.erase key members)) :=
  ⟨⟨h.canonical.1.erase key, h.canonical.2.erase key⟩, h.within.1, h.within.2.erase key⟩

private theorem set (h : Printable room (array items)) (i : Nat)
    (hvalue : Printable (room - 1) value) :
    Printable room (array (items.set i value)) := by
  obtain ⟨hroom, hitems⟩ := array_iff.1 h
  refine array_iff.2 ⟨hroom, fun item hitem => ?_⟩
  rcases List.mem_or_eq_of_mem_set hitem with hold | rfl
  · exact hitems item hold
  · exact hvalue

/-! ## A change at one place -/

theorem follow?_cons (key : String) (path : List String) (value : Json) :
    Pointer.follow? (key :: path) value =
      (Pointer.step? key value).bind (Pointer.follow? path) :=
  List.foldlM_cons

/-- A change at one place, for something that fits there. -/
theorem update {f : Json → Json} : ∀ {path : List String} {room : Nat} {value : Json},
    Printable room value →
    (∀ found less, Pointer.follow? path value = some found → Printable less found →
      Printable less (f found)) →
    Printable room (Pointer.update f path value)
  | [], room, value, h, hf => hf value room rfl h
  | key :: path, room, value, h, hf => by
      have hbelow {child : Json} (hstep : Pointer.step? key value = some child)
          (hchild : Printable (room - 1) child) :
          Printable (room - 1) (Pointer.update f path child) := by
        refine update hchild fun found less hfollow => hf found less ?_
        rw [follow?_cons, hstep]
        exact hfollow
      cases value with
      | object members =>
          rw [Pointer.update]
          split
          · next child hget => exact h.insert key (hbelow hget (h.get? hget))
          · exact h
      | array items =>
          rw [Pointer.update]
          split
          · next i hindex =>
              split
              · next child hget =>
                  have hchild := (array_iff.1 h).2 child (List.mem_of_getElem? hget)
                  refine h.set i (hbelow ?_ hchild)
                  rw [Pointer.step?, hindex]
                  exact hget
              · exact h
          · exact h
      | _ => exact h

/-- What can be printed is read back from its indented text. -/
theorem read_prettyBytes (h : Printable maxDepth value) :
    ∃ other, read value.prettyBytes = .ok other ∧ equal value other = true :=
  Json.read_prettyBytes h.canonical h.within

end Printable

end ClusterEvidence.Json
