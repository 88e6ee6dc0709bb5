import Mathlib.Data.List.Basic
import ClusterEvidence.Proofs.Json.Difference

/-!
# What a difference takes away and what it adds

The difference of two objects and their meet go through the same members and decide the same at
each of them. A member that is removed or replaced is not in the meet, and nothing else is missing
there; so the removals alone turn the first object into the meet. What the second object has beyond
that are the additions, which stand where the first object lacks a member of an object that both
have.

The proofs speak of edits, whose places are lists of keys, and come back to operations and their
pointers at the end.

## Main results

* `applyAll?_removals` — without what is removed or replaced, an object is the meet.
* `add_mem_editsBetween_iff` — the additions are the outermost members that are missing.
* `difference_tellsMeet` — both of the operations of a difference.
-/

namespace ClusterEvidence.Json

/-! ## What is taken away -/

/-- What an operation takes away: a replacement what it replaces, an addition nothing. -/
def Operation.removal? : Operation → Option Operation
  | .add _ _ => none
  | .remove path => some (.remove path)
  | .replace path _ => some (.remove path)

/-- What an edit takes away. -/
def Edit.removal? (edit : Edit) : Option Edit :=
  match edit.change with
  | .add _ => none
  | .remove | .replace _ => some ⟨edit.place, .remove⟩

private theorem Edit.removal?_below (place : List String) (edit : Edit) :
    (edit.below place).removal? = edit.removal?.map (Edit.below place) := by
  obtain ⟨_, change⟩ := edit
  cases change <;> rfl

private theorem Edit.removal?_operation (path : String) (edit : Edit) :
    (edit.operation path).removal? = edit.removal?.map (Edit.operation path) := by
  obtain ⟨_, change⟩ := edit
  cases change <;> rfl

/-- What is taken away is removed from the place of the edit. -/
private theorem Edit.eq_of_removal? {edit removal : Edit} (h : edit.removal? = some removal) :
    removal = ⟨edit.place, .remove⟩ := by
  obtain ⟨_, change⟩ := edit
  cases change <;> cases h <;> rfl

/-- The edits that take away what is removed or replaced between two values. -/
def removalsBetween (a b : Json) : List Edit := (editsBetween a b).filterMap Edit.removal?

/-- The removals of a difference are read back as those between the documents. -/
private theorem map_edit_removals (a b : Json) :
    ((difference a b).filterMap Operation.removal?).map Operation.edit = removalsBetween a b := by
  rw [difference_eq, List.filterMap_map, List.map_filterMap]
  refine List.filterMap_congr fun edit _ => ?_
  show ((edit.operation "").removal?).map Operation.edit = edit.removal?
  rw [Edit.removal?_operation, Option.map_map]
  cases edit.removal? with
  | none => rfl
  | some removal => exact congrArg some (Edit.edit_operation "" removal)

/-- A removal stands where an edit does. -/
private theorem exists_edit_of_mem_removals {a b : Json} {removal : Edit}
    (h : removal ∈ removalsBetween a b) :
    ∃ edit ∈ editsBetween a b, removal = ⟨edit.place, .remove⟩ := by
  obtain ⟨edit, hedit, hremoval⟩ := List.mem_filterMap.1 h
  exact ⟨edit, hedit, Edit.eq_of_removal? hremoval⟩

/-- The removals between two documents are pairwise apart. -/
private theorem pairwise_apart_removals {a b : Json} (ha : Canonical a) (hb : Canonical b) :
    (removalsBetween a b).Pairwise fun e e' => Apart e.place e'.place := by
  refine (pairwise_apart_editsBetween ha hb).filterMap _ ?_
  intro first second hapart removal hremoval other hother
  rw [Edit.eq_of_removal? hremoval, Edit.eq_of_removal? hother]
  exact hapart

/-! ## The meet is what is left -/

/-- A member that is there can be removed. -/
private theorem applyAll?_remove {key : String} {members : List (String × Json)}
    (h : (Entries.get? key members).isSome) :
    Edit.applyAll? [⟨[key], .remove⟩] (object members) =
      some (object (Entries.put key none members)) := by
  obtain ⟨value, hvalue⟩ := Option.isSome_iff_exists.1 h
  simp [Edit.make?, alter?_object, alterMember?, Change.make?, hvalue]

/-- The removals of a member leave its meet with the other member, or nothing when there is no
other member or no meet. -/
private theorem applyAll?_removalsOfMember {b around : List (String × Json)}
    {member : String × Json}
    (h : ∀ left right, member.2 = object left → Entries.get? member.1 b = some (object right) →
      Edit.applyAll? (removalsBetween (object left) (object right)) (object left) =
        meet? (object left) (object right))
    (hsorted : Entries.Sorted around) (hold : Entries.get? member.1 around = some member.2) :
    Edit.applyAll? ((editsOfMember b member).filterMap Edit.removal?) (object around) =
      some (object
        (Entries.put member.1 ((Entries.get? member.1 b).bind (meet? member.2)) around)) := by
  obtain ⟨key, old⟩ := member
  have hthere : (Entries.get? key around).isSome := by simp [hold]
  rw [editsOfMember]
  cases hnew : Entries.get? key b with
  | none => exact applyAll?_remove hthere
  | some new =>
      have hbelow : ((editsBetween old new).map (Edit.below [key])).filterMap Edit.removal? =
          (removalsBetween old new).map (Edit.below [key]) := by
        rw [List.filterMap_map, removalsBetween, List.map_filterMap]
        exact List.filterMap_congr fun edit _ => Edit.removal?_below [key] edit
      show Edit.applyAll? (((editsBetween old new).map (Edit.below [key])).filterMap _) _ =
        some (object (Entries.put key (meet? old new) around))
      rw [hbelow]
      by_cases hobjects : (old.isObject && new.isObject) = false
      · -- Values that are not both objects stay as they are or go as a whole.
        rw [meet?_of_leaf hobjects, removalsBetween, editsBetween_of_leaf hobjects]
        split
        · have hput := hsorted.put_get? key
          rw [hold] at hput
          rw [hput]
          rfl
        · exact applyAll?_remove hthere
      · cases old <;> cases new <;> simp only [isObject, Bool.and_false, Bool.and_true,
          not_true_eq_false] at hobjects
        next left right =>
          rw [applyAll?_below _ hsorted hold, h left right rfl hnew]
          · rfl
          · intro removal hremoval hplace
            obtain ⟨edit, hedit, rfl⟩ := exists_edit_of_mem_removals hremoval
            have hne : edit.place ≠ [] := place_ne_nil_of_mem_editsBetween hedit
            exact absurd hplace hne

/-- Nothing is taken away by additions. -/
private theorem filterMap_removal?_additionEdits (a b : List (String × Json)) :
    (additionEdits a b).filterMap Edit.removal? = [] := by
  rw [List.filterMap_eq_nil_iff]
  intro edit hedit
  obtain ⟨member, _, rfl⟩ := List.mem_map.1 hedit
  rfl

/-- Without what is removed or replaced on the way to another object, an object is their meet. -/
theorem applyAll?_removals {a b : List (String × Json)} (ha : Canonical (object a)) :
    Edit.applyAll? (removalsBetween (object a) (object b)) (object a) =
      meet? (object a) (object b) := by
  suffices ∀ value : Json, Canonical value → ∀ a b, value = object a →
      Edit.applyAll? (removalsBetween (object a) (object b)) (object a) =
        meet? (object a) (object b) from this (object a) ha a b rfl
  intro value hvalue
  induction value using memberInduction with
  | leaf value hleaf =>
      rintro a b rfl
      simp [isObject] at hleaf
  | members a ih =>
      intro _ b heq
      cases heq
      have hget : ∀ member ∈ a, Entries.get? member.1 a = some member.2 := fun member hmember =>
        hvalue.1.get?_eq_some_iff.2 hmember
      obtain ⟨result, hresult, hsorted, hfound⟩ :=
        applyAll?_flatMap (f := fun member => (editsOfMember b member).filterMap Edit.removal?)
          (P := fun key found => found =
            (Entries.get? key a).bind fun left => (Entries.get? key b).bind (meet? left))
          hvalue.1 hvalue.1 hget fun member hmember => by
            refine ⟨(Entries.get? member.1 b).bind (meet? member.2), by simp [hget member hmember],
              fun around hsorted hold => applyAll?_removalsOfMember ?_ hsorted hold⟩
            intro left right hleft hright
            have hmember := hget member hmember
            exact ih member.1 member.2 hmember (hvalue.2.get? hmember) left right hleft
      have hmeet : result = meetMembers a b := by
        refine hsorted.ext (sorted_meetMembers hvalue.1 b) fun key => ?_
        rw [get?_meetMembers hvalue.1]
        have hkey := hfound key
        cases hold : Entries.get? key a with
        | none => simpa [hold] using hkey
        | some old => simpa [hold] using hkey
      rw [removalsBetween, editsBetween, List.filterMap_append, filterMap_removal?_additionEdits,
        List.append_nil, memberEdits_eq_flatMap, List.filterMap_flatMap, hresult, hmeet, meet?]

/-! ## What is added -/

/-- A member of one document that another one lacks, although every place on the way to it is an
object in both. -/
structure IsMissing (a b : Json) (place : List String) (value : Json) : Prop where
  found : memberAt? place b = some value
  lacking : memberAt? place a = none
  within : ∀ front, front <+: place → front ≠ place →
    ∃ x y, memberAt? front a = some (object x) ∧ memberAt? front b = some (object y)

/-- The document itself is never missing. -/
private theorem IsMissing.ne_nil {a b value : Json} {place : List String}
    (h : IsMissing a b place value) : place ≠ [] := by
  rintro rfl
  cases h.lacking

/-- Members are missing in objects only. -/
private theorem IsMissing.objects {a b value : Json} {place : List String}
    (h : IsMissing a b place value) : (a.isObject && b.isObject) = true := by
  obtain ⟨x, y, hx, hy⟩ := h.within [] List.nil_prefix (Ne.symm h.ne_nil)
  cases hx
  cases hy
  rfl

theorem memberAt?_object (key : String) (place : List String) (members : List (String × Json)) :
    memberAt? (key :: place) (object members) =
      (Entries.get? key members).bind (memberAt? place) := rfl

/-- A key leads to the member under it. -/
private theorem memberAt?_key (key : String) (members : List (String × Json)) :
    memberAt? [key] (object members) = Entries.get? key members := by
  rw [memberAt?_object]
  cases Entries.get? key members <;> rfl

/-- A member that only the second object has is missing. -/
private theorem isMissing_key {a b : List (String × Json)} {key : String} {value : Json}
    (hold : Entries.get? key a = none) (hnew : Entries.get? key b = some value) :
    IsMissing (object a) (object b) [key] value where
  found := (memberAt?_key key b).trans hnew
  lacking := (memberAt?_key key a).trans hold
  within front hfront hne := by
    rcases List.prefix_cons_iff.1 hfront with rfl | ⟨rest, rfl, hrest⟩
    · exact ⟨a, b, rfl, rfl⟩
    · rw [List.prefix_nil.1 hrest] at hne
      exact absurd rfl hne

/-- What is missing in a member that both objects have is missing in them. -/
theorem IsMissing.cons {a b : List (String × Json)} {key : String} {old new value : Json}
    {place : List String} (h : IsMissing old new place value)
    (hold : Entries.get? key a = some old) (hnew : Entries.get? key b = some new) :
    IsMissing (object a) (object b) (key :: place) value where
  found := by rw [memberAt?_object, hnew]; exact h.found
  lacking := by rw [memberAt?_object, hold]; exact h.lacking
  within front hfront hne := by
    rcases List.prefix_cons_iff.1 hfront with rfl | ⟨rest, rfl, hrest⟩
    · exact ⟨a, b, rfl, rfl⟩
    · rw [memberAt?_object, memberAt?_object, hold, hnew]
      exact h.within rest hrest fun heq => hne (heq ▸ rfl)

/-- What is missing in an object is one of its members, or missing in one that both have. -/
private theorem IsMissing.cases_cons {a b : List (String × Json)} {key : String}
    {place : List String}
    {value : Json} (h : IsMissing (object a) (object b) (key :: place) value) :
    (∃ old new, Entries.get? key a = some old ∧ Entries.get? key b = some new ∧
      IsMissing old new place value) ∨
    (place = [] ∧ Entries.get? key a = none ∧ Entries.get? key b = some value) := by
  cases place with
  | nil =>
      have hold := h.lacking
      have hnew := h.found
      rw [memberAt?_key] at hold hnew
      exact .inr ⟨rfl, hold, hnew⟩
  | cons next place =>
      obtain ⟨x, y, hold, hnew⟩ := h.within [key]
        (List.cons_prefix_cons.2 ⟨rfl, List.nil_prefix⟩) (by simp)
      rw [memberAt?_key] at hold hnew
      refine .inl ⟨object x, object y, hold, hnew, ?_, ?_, fun front hfront hne => ?_⟩
      · have hfound := h.found
        rw [memberAt?_object, hnew] at hfound
        exact hfound
      · have hlacking := h.lacking
        rw [memberAt?_object, hold] at hlacking
        exact hlacking
      · have hwithin := h.within (key :: front) (List.cons_prefix_cons.2 ⟨rfl, hfront⟩)
          fun heq => hne (List.cons.inj heq).2
        rw [memberAt?_object, memberAt?_object, hold, hnew] at hwithin
        exact hwithin

/-- Of the edits of the members, the additions stand below a key that both objects have. -/
private theorem add_mem_memberEdits_iff {a b : List (String × Json)} (ha : Entries.Sorted a)
    {key : String} {place : List String} {value : Json} :
    ⟨key :: place, .add value⟩ ∈ memberEdits a b ↔
      ∃ old new, Entries.get? key a = some old ∧ Entries.get? key b = some new ∧
        ⟨place, .add value⟩ ∈ editsBetween old new := by
  rw [mem_memberEdits_iff]
  constructor
  · rintro ⟨member, hmember, hedit⟩
    rcases cases_of_mem_editsOfMember hedit with ⟨new, hnew, ⟨_, _⟩, hinner, heq⟩ | ⟨_, heq⟩
    · cases heq
      exact ⟨member.2, new, ha.get?_eq_some_iff.2 hmember, hnew, hinner⟩
    · cases heq
  · rintro ⟨old, new, hold, hnew, hinner⟩
    refine ⟨(key, old), Entries.mem_of_get? hold, ?_⟩
    show _ ∈ editsOfMember b (key, old)
    rw [editsOfMember, hnew]
    exact List.mem_map_of_mem hinner

/-- The additions of members are those that the first object lacks. -/
private theorem add_mem_additionEdits_iff {a b : List (String × Json)} (hb : Entries.Sorted b)
    {key : String} {place : List String} {value : Json} :
    ⟨key :: place, .add value⟩ ∈ additionEdits a b ↔
      place = [] ∧ Entries.get? key a = none ∧ Entries.get? key b = some value := by
  rw [additionEdits, List.mem_map]
  constructor
  · rintro ⟨member, hmember, heq⟩
    obtain ⟨hmem, hnone⟩ := List.mem_filter.1 hmember
    cases heq
    exact ⟨rfl, Option.isNone_iff_eq_none.1 hnone, hb.get?_eq_some_iff.2 hmem⟩
  · rintro ⟨rfl, hnone, hnew⟩
    refine ⟨(key, value), List.mem_filter.2 ⟨Entries.mem_of_get? hnew, ?_⟩, rfl⟩
    exact Option.isNone_iff_eq_none.2 hnone

/-- The additions are the outermost members that the first document lacks. -/
theorem add_mem_editsBetween_iff {a b : Json} (ha : Canonical a) (hb : Canonical b)
    {place : List String} {value : Json} :
    ⟨place, .add value⟩ ∈ editsBetween a b ↔ IsMissing a b place value := by
  induction place generalizing a b with
  | nil =>
      refine iff_of_false (fun hedit => ?_) fun h => h.ne_nil rfl
      obtain ⟨_, hreplace⟩ := exists_replace_of_place_nil hedit rfl
      cases hreplace
  | cons key place ih =>
      by_cases hobjects : (a.isObject && b.isObject) = false
      · refine iff_of_false (fun hedit => ?_) fun h => by simp [h.objects] at hobjects
        rw [editsBetween_of_leaf hobjects] at hedit
        split at hedit
        · cases hedit
        · cases List.mem_singleton.1 hedit
      · cases a <;> cases b <;> simp only [isObject, Bool.and_false, Bool.and_true,
          not_true_eq_false] at hobjects
        next a b =>
          rw [editsBetween, List.mem_append, add_mem_memberEdits_iff ha.1,
            add_mem_additionEdits_iff hb.1]
          constructor
          · rintro (⟨old, new, hold, hnew, hinner⟩ | ⟨rfl, hold, hnew⟩)
            · exact ((ih (ha.2.get? hold) (hb.2.get? hnew)).1 hinner).cons hold hnew
            · exact isMissing_key hold hnew
          · intro h
            refine h.cases_cons.imp_left ?_
            rintro ⟨old, new, hold, hnew, hmissing⟩
            exact ⟨old, new, hold, hnew, (ih (ha.2.get? hold) (hb.2.get? hnew)).2 hmissing⟩

/-- An operation of a difference that adds is an addition, written down. -/
private theorem add_mem_difference_iff {a b : Json} {path : String} {value : Json} :
    .add path value ∈ difference a b ↔
      ∃ place, path = Pointer.extend "" place ∧ ⟨place, .add value⟩ ∈ editsBetween a b := by
  rw [difference_eq, List.mem_map]
  constructor
  · rintro ⟨⟨place, change⟩, hedit, heq⟩
    cases change <;> cases heq
    exact ⟨place, rfl, hedit⟩
  · rintro ⟨place, rfl, hedit⟩
    exact ⟨_, hedit, rfl⟩

/-! ## The difference and the meet -/

/-- What a list of operations has to say about two documents in order to tell their meet, and what
the second one has beside it. -/
structure TellsMeet (operations : List Operation) (a b : Json) : Prop where
  /-- The first document without what is removed or replaced, taken away in any order, is the
  meet. -/
  leaves : ∃ c, meet? a b = some c ∧
    ∀ removals, removals.Perm (operations.filterMap Operation.removal?) →
      Operation.applyAll? removals a = some c
  /-- What is added are the outermost members that the first document lacks. -/
  add_iff : ∀ path value, .add path value ∈ operations ↔
    ∃ place, path = Pointer.extend "" place ∧ IsMissing a b place value

/-- The difference of two objects tells their meet. -/
theorem difference_tellsMeet {a b : List (String × Json)} (ha : Canonical (object a))
    (hb : Canonical (object b)) :
    TellsMeet (difference (object a) (object b)) (object a) (object b) := by
  refine ⟨⟨object (meetMembers a b), by rw [meet?], fun removals hperm => ?_⟩, fun path value => ?_⟩
  · have hedits := hperm.map Operation.edit
    rw [map_edit_removals] at hedits
    have hcanonical : ∀ removal ∈ removalsBetween (object a) (object b),
        removal.change.Canonical := by
      intro removal hremoval
      obtain ⟨edit, _, rfl⟩ := exists_edit_of_mem_removals hremoval
      trivial
    rw [Edit.applyAll?_operations,
      ← Edit.applyAll?_perm hedits.symm (pairwise_apart_removals ha hb) hcanonical ha,
      applyAll?_removals ha, meet?]
  · rw [add_mem_difference_iff]
    refine exists_congr fun place => and_congr_right fun _ => ?_
    exact add_mem_editsBetween_iff ha hb

/-- Members that hold an object which the other document empties, a key with a slash, and a scalar
where the other document has an object. -/
def nestedBefore : List (String × Json) :=
  [("a", object [("b", null)]), ("c", object [("d", null), ("~/", bool true)]), ("e", null)]

/-- The members of that other document. -/
def nestedAfter : List (String × Json) :=
  [("a", object []), ("c", object [("/", null), ("d", null), ("~/", bool false)]),
    ("e", object [("f", null)])]

theorem difference_tellsMeet_nested :
    Canonical (object nestedBefore) ∧ Canonical (object nestedAfter) ∧
      TellsMeet (difference (object nestedBefore) (object nestedAfter)) (object nestedBefore)
        (object nestedAfter) := by
  have hbefore : Canonical (object nestedBefore) := by
    simp only [nestedBefore, Canonical, CanonicalMembers, Entries.Sorted]
    decide
  have hafter : Canonical (object nestedAfter) := by
    simp only [nestedAfter, Canonical, CanonicalMembers, Entries.Sorted]
    decide
  exact ⟨hbefore, hafter, difference_tellsMeet hbefore hafter⟩

end ClusterEvidence.Json
