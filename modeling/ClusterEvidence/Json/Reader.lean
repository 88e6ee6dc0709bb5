import ClusterEvidence.Json.Written

/-!
# Reading a JSON value

A text is read as a value when its tree has one: every number is in range, every string is text,
and no more than a hundred and twenty-seven arrays and objects are nested. Of two members with one
key the later stands.

## Main results

* `canonical_ofWritten` — a value that was read is canonical.
-/

namespace ClusterEvidence.Json

/-- How many arrays and objects may be nested. -/
def maxDepth : Nat := 127

mutual

/-- The value of a tree, with room for so many levels of nesting. -/
def ofWritten (room : Nat) : Written → Except Fault Json
  | .null => .ok null
  | .bool b => .ok (bool b)
  | .number (some n) => .ok (number n)
  | .number none => .error .outOfRange
  | .string (some s) => .ok (string s)
  | .string none => .error .notText
  | .array items =>
      match room with
      | 0 => .error .tooDeep
      | room + 1 => do
          let items ← itemsOfWritten room items
          .ok (array items)
  | .object members =>
      match room with
      | 0 => .error .tooDeep
      | room + 1 => do
          let members ← membersOfWritten room [] members
          .ok (object members)

/-- The values of items, in order. -/
def itemsOfWritten (room : Nat) : List Written → Except Fault (List Json)
  | [] => .ok []
  | item :: items => do
      let value ← ofWritten room item
      let values ← itemsOfWritten room items
      .ok (value :: values)

/-- Adds members to those already read. -/
def membersOfWritten (room : Nat) (done : List (String × Json)) :
    List (Option String × Written) → Except Fault (List (String × Json))
  | [] => .ok done
  | (none, _) :: _ => .error .notText
  | (some key, member) :: members => do
      let value ← ofWritten room member
      membersOfWritten room (Entries.insert key value done) members

end

/-- Reads a text as one value. -/
def read (bytes : Bytes) : Except Fault Json := do
  let tree ← Written.read bytes
  ofWritten maxDepth tree

/-- Reads a string as one value. -/
def readString (text : String) : Except Fault Json := read (Text.encodeString text)

/-! ## Values that were read are canonical -/

theorem CanonicalMembers.insert {members : List (String × Json)} (h : CanonicalMembers members)
    (key : String) {value : Json} (hvalue : Canonical value) :
    CanonicalMembers (Entries.insert key value members) := by
  induction members with
  | nil => exact ⟨hvalue, trivial⟩
  | cons member members ih =>
      obtain ⟨k, v⟩ := member
      obtain ⟨hv, hmembers⟩ := h
      rw [Entries.insert]
      split
      · exact ⟨hvalue, hv, hmembers⟩
      · split
        · exact ⟨hvalue, hmembers⟩
        · exact ⟨hv, ih hmembers⟩

mutual

/-- A value that was read is canonical. -/
theorem canonical_ofWritten (room : Nat) :
    ∀ {tree : Written} {value : Json}, ofWritten room tree = .ok value → Canonical value
  | .null, _, h => by cases h; trivial
  | .bool _, _, h => by cases h; trivial
  | .number (some _), _, h => by cases h; trivial
  | .number none, _, h => by cases h
  | .string (some _), _, h => by cases h; trivial
  | .string none, _, h => by cases h
  | .array items, _, h => by
      cases room with
      | zero => simp [ofWritten] at h
      | succ room =>
          rw [ofWritten] at h
          cases hitems : itemsOfWritten room items with
          | error e => simp [hitems, bind, Except.bind] at h
          | ok values =>
              simp only [hitems, bind, Except.bind, Except.ok.injEq] at h
              subst h
              exact canonicalItems_itemsOfWritten room hitems
  | .object members, _, h => by
      cases room with
      | zero => simp [ofWritten] at h
      | succ room =>
          rw [ofWritten] at h
          cases hmembers : membersOfWritten room [] members with
          | error e => simp [hmembers, bind, Except.bind] at h
          | ok values =>
              simp only [hmembers, bind, Except.bind, Except.ok.injEq] at h
              subst h
              exact canonical_membersOfWritten room .nil trivial hmembers

theorem canonicalItems_itemsOfWritten (room : Nat) :
    ∀ {items : List Written} {values : List Json},
      itemsOfWritten room items = .ok values → CanonicalItems values
  | [], _, h => by cases h; trivial
  | item :: items, _, h => by
      rw [itemsOfWritten] at h
      cases hitem : ofWritten room item with
      | error e => simp [hitem, bind, Except.bind] at h
      | ok value =>
          cases hitems : itemsOfWritten room items with
          | error e => simp [hitem, hitems, bind, Except.bind] at h
          | ok values =>
              simp only [hitem, hitems, bind, Except.bind, Except.ok.injEq] at h
              subst h
              exact ⟨canonical_ofWritten room hitem, canonicalItems_itemsOfWritten room hitems⟩

theorem canonical_membersOfWritten (room : Nat) :
    ∀ {members : List (Option String × Written)} {done values : List (String × Json)},
      Entries.Sorted done → CanonicalMembers done →
      membersOfWritten room done members = .ok values → Canonical (object values)
  | [], _, _, hsorted, hdone, h => by cases h; exact ⟨hsorted, hdone⟩
  | (none, _) :: _, _, _, _, _, h => by cases h
  | (some key, member) :: members, _, _, hsorted, hdone, h => by
      rw [membersOfWritten] at h
      cases hmember : ofWritten room member with
      | error e => simp [hmember, bind, Except.bind] at h
      | ok value =>
          simp only [hmember, bind, Except.bind] at h
          exact canonical_membersOfWritten room (hsorted.insert _ _)
            (hdone.insert _ (canonical_ofWritten room hmember)) h

end

/-- A text that reads as a value reads as a canonical one. -/
theorem canonical_of_read {bytes : Bytes} {value : Json} (h : read bytes = .ok value) :
    Canonical value := by
  simp only [read, bind, Except.bind] at h
  split at h
  · cases h
  · exact canonical_ofWritten _ h

end ClusterEvidence.Json
