import ClusterEvidence.Proofs.Json.Edit
import ClusterEvidence.Proofs.Json.Meet

/-!
# The difference is a patch from the one document to the other

The operations of a difference carry pointers that grow on the way down. The proofs leave the
pointers behind at once: the operations are edits written down, and below a member they are the
edits between its two values, moved below its key (`differenceAt_eq`). What follows is an
induction through the members of the first document, in which the edits of one member are seen by
that member only (`applyAll?_flatMap`).

## Main results

* `exists_applyAll?_editsBetween` — made in order, the edits lead from the one document to the
  other.
* `pairwise_apart_editsBetween` — no edit stands at or below the place of another one.
* `difference_eq_nil_iff` — nothing is done exactly when the documents are equal.
* `difference_isPatch` — all of this for the patch itself, which may therefore be applied in any
  order.
-/

namespace ClusterEvidence.Json

/-! ## The difference as edits -/

/-- An edit moved below a place. -/
def Edit.below (place : List String) (edit : Edit) : Edit := ⟨place ++ edit.place, edit.change⟩

/-- The operation that writes an edit down, with the pointer to its place below a path. -/
def Edit.operation (path : String) (edit : Edit) : Operation :=
  match edit.change with
  | .add value => .add (Pointer.extend path edit.place) value
  | .remove => .remove (Pointer.extend path edit.place)
  | .replace value => .replace (Pointer.extend path edit.place) value

private theorem Edit.operation_below (path key : String) (edit : Edit) :
    (edit.below [key]).operation path = edit.operation (Pointer.child path key) := rfl

/-- What was written down is read back as the edit, at its place below the path. -/
theorem Edit.edit_operation (path : String) (edit : Edit) :
    (edit.operation path).edit = edit.below (Pointer.keys path) := by
  obtain ⟨place, change⟩ := edit
  cases change <;> simp [Edit.operation, Operation.edit, Edit.below, Pointer.keys_extend]

/-- The edits that add the members of an object that another lacks. -/
def additionEdits (a b : List (String × Json)) : List Edit :=
  (b.filter fun member => (Entries.get? member.1 a).isNone).map fun member =>
    ⟨[member.1], .add member.2⟩

mutual

/-- The edits that lead from one value to another. -/
def editsBetween : Json → Json → List Edit
  | object a, object b => memberEdits a b ++ additionEdits a b
  | a, b => if equal a b then [] else [⟨[], .replace b⟩]

/-- The edits of the members of an object that lead to those of another. -/
def memberEdits : List (String × Json) → List (String × Json) → List Edit
  | [], _ => []
  | (key, old) :: members, b =>
      (match Entries.get? key b with
        | some new => (editsBetween old new).map (Edit.below [key])
        | none => [⟨[key], .remove⟩]) ++ memberEdits members b

end

/-- Values that are not both objects are compared as a whole. -/
private theorem differenceAt_of_leaf {a b : Json} (h : (a.isObject && b.isObject) = false)
    (path : String) :
    differenceAt path a b = if equal a b then [] else [.replace path b] := by
  cases a <;> cases b <;> first | rfl | simp [isObject] at h

theorem editsBetween_of_leaf {a b : Json} (h : (a.isObject && b.isObject) = false) :
    editsBetween a b = if equal a b then [] else [⟨[], .replace b⟩] := by
  cases a <;> cases b <;> first | rfl | simp [isObject] at h

/-- Values that are not both objects give at most one operation, at the place itself. -/
private theorem differenceAt_eq_of_leaf {a b : Json} (h : (a.isObject && b.isObject) = false)
    (path : String) :
    differenceAt path a b = (editsBetween a b).map (Edit.operation path) := by
  rw [differenceAt_of_leaf h, editsBetween_of_leaf h]
  split <;> rfl

private theorem additions_eq (path : String) (a b : List (String × Json)) :
    additions path a b = (additionEdits a b).map (Edit.operation path) := by
  rw [additions, additionEdits, List.map_map]
  rfl

mutual

/-- The operations at a path are the edits between the values, written down below it. -/
theorem differenceAt_eq (path : String) : ∀ a b : Json,
    differenceAt path a b = (editsBetween a b).map (Edit.operation path)
  | object a, object b => by
      rw [differenceAt, editsBetween, List.map_append, changes_eq path a b, additions_eq]
  | object _, null | object _, bool _ | object _, number _ | object _, string _
  | object _, array _ => differenceAt_eq_of_leaf rfl path
  | null, _ | bool _, _ | number _, _ | string _, _ | array _, _ =>
      differenceAt_eq_of_leaf rfl path

theorem changes_eq (path : String) : ∀ a b : List (String × Json),
    changes path a b = (memberEdits a b).map (Edit.operation path)
  | [], _ => rfl
  | (key, old) :: members, b => by
      rw [changes, memberEdits, List.map_append, changes_eq path members b]
      congr 1
      cases Entries.get? key b with
      | none => rfl
      | some new =>
          show differenceAt (Pointer.child path key) old new =
            ((editsBetween old new).map (Edit.below [key])).map (Edit.operation path)
          rw [differenceAt_eq (Pointer.child path key) old new, List.map_map]
          exact List.map_congr_left fun edit _ => (Edit.operation_below path key edit).symm

end

/-- The operations of a difference are the edits between the documents, written down. -/
theorem difference_eq (a b : Json) :
    difference a b = (editsBetween a b).map (Edit.operation "") :=
  differenceAt_eq "" a b

/-- The operations of a difference are read back as the edits between the documents. -/
private theorem map_edit_difference (a b : Json) :
    (difference a b).map Operation.edit = editsBetween a b := by
  rw [difference_eq, List.map_map]
  refine (List.map_congr_left fun edit _ => ?_).trans (List.map_id _)
  rw [Function.comp_apply, Edit.edit_operation, Pointer.keys_empty]
  rfl

/-! ## One member after another -/

/-- The edits of one member of an object, given the members of the other one. -/
def editsOfMember (b : List (String × Json)) (member : String × Json) : List Edit :=
  match Entries.get? member.1 b with
  | some new => (editsBetween member.2 new).map (Edit.below [member.1])
  | none => [⟨[member.1], .remove⟩]

theorem memberEdits_eq_flatMap (a b : List (String × Json)) :
    memberEdits a b = a.flatMap (editsOfMember b) := by
  induction a with
  | nil => rfl
  | cons member a ih =>
      rw [memberEdits, ih]
      rfl

/-! ## Where the edits stand -/

/-- The edits of a member are those between its values, moved below its key, or its removal. -/
theorem cases_of_mem_editsOfMember {b : List (String × Json)} {member : String × Json}
    {edit : Edit} (h : edit ∈ editsOfMember b member) :
    (∃ new, Entries.get? member.1 b = some new ∧
      ∃ inner ∈ editsBetween member.2 new, edit = inner.below [member.1]) ∨
    (Entries.get? member.1 b = none ∧ edit = ⟨[member.1], .remove⟩) := by
  rw [editsOfMember] at h
  split at h
  · next new hnew =>
      obtain ⟨inner, hinner, rfl⟩ := List.mem_map.1 h
      exact .inl ⟨new, hnew, inner, hinner, rfl⟩
  · next hnone => exact .inr ⟨hnone, List.mem_singleton.1 h⟩

/-- An edit of a member stands at its key or below it. -/
theorem exists_place_of_mem_editsOfMember {b : List (String × Json)} {member : String × Json}
    {edit : Edit} (h : edit ∈ editsOfMember b member) : ∃ rest, edit.place = member.1 :: rest := by
  rcases cases_of_mem_editsOfMember h with ⟨_, _, inner, _, rfl⟩ | ⟨_, rfl⟩
  · exact ⟨inner.place, rfl⟩
  · exact ⟨[], rfl⟩

/-- The edits of the members are those of one of them each. -/
theorem mem_memberEdits_iff {a b : List (String × Json)} {edit : Edit} :
    edit ∈ memberEdits a b ↔ ∃ member ∈ a, edit ∈ editsOfMember b member := by
  rw [memberEdits_eq_flatMap, List.mem_flatMap]

/-- An addition stands at a key that the first object lacks. -/
theorem exists_place_of_mem_additionEdits {a b : List (String × Json)} {edit : Edit}
    (h : edit ∈ additionEdits a b) :
    ∃ member ∈ b, Entries.get? member.1 a = none ∧ edit.place = [member.1] := by
  obtain ⟨member, hmember, rfl⟩ := List.mem_map.1 h
  obtain ⟨hmem, hnone⟩ := List.mem_filter.1 hmember
  exact ⟨member, hmem, Option.isNone_iff_eq_none.1 hnone, rfl⟩

/-- Edits moved below a key stay apart. -/
private theorem pairwise_apart_below {edits : List Edit} (key : String)
    (h : edits.Pairwise fun e e' => Apart e.place e'.place) :
    (edits.map (Edit.below [key])).Pairwise fun e e' => Apart e.place e'.place :=
  List.Pairwise.map _ (fun _ _ hapart => apart_cons_iff.2 hapart) h

/-- The edits of different members are apart. -/
private theorem pairwise_apart_memberEdits {a b : List (String × Json)} (ha : Entries.Sorted a)
    (hmembers : ∀ key old new, Entries.get? key a = some old → Entries.get? key b = some new →
      (editsBetween old new).Pairwise fun e e' => Apart e.place e'.place) :
    (memberEdits a b).Pairwise fun e e' => Apart e.place e'.place := by
  rw [memberEdits_eq_flatMap, List.pairwise_flatMap]
  constructor
  · intro member hmember
    rw [editsOfMember]
    split
    · next new hnew =>
        exact pairwise_apart_below member.1
          (hmembers member.1 member.2 new (ha.get?_eq_some_iff.2 hmember) hnew)
    · exact List.pairwise_singleton _ _
  · refine List.Pairwise.imp (fun {member other} hlt => ?_) ha
    intro edit hedit later hlater
    obtain ⟨below, hbelow⟩ := exists_place_of_mem_editsOfMember hedit
    obtain ⟨rest, hrest⟩ := exists_place_of_mem_editsOfMember hlater
    rw [hbelow, hrest]
    exact apart_of_ne (fun heq => String.lt_irrefl _ (heq ▸ hlt)) _ _

/-- The edits between two documents are pairwise apart. -/
theorem pairwise_apart_editsBetween {a b : Json} (ha : Canonical a) (hb : Canonical b) :
    (editsBetween a b).Pairwise fun e e' => Apart e.place e'.place := by
  induction a using memberInduction generalizing b with
  | leaf a hleaf =>
      rw [editsBetween_of_leaf (by simp [hleaf])]
      split
      · exact .nil
      · exact List.pairwise_singleton _ _
  | members a ih =>
      cases b with
      | object b =>
          rw [editsBetween]
          refine List.pairwise_append.2 ⟨?_, ?_, ?_⟩
          · exact pairwise_apart_memberEdits ha.1 fun key old new hold hnew =>
              ih key old hold (ha.2.get? hold) (hb.2.get? hnew)
          · refine List.Pairwise.map _ (fun _ _ hlt => ?_)
              (List.Pairwise.sublist List.filter_sublist hb.1)
            exact apart_of_ne (fun heq => String.lt_irrefl _ (heq ▸ hlt)) [] []
          · intro edit hedit other hother
            obtain ⟨member, hmember, hedit⟩ := mem_memberEdits_iff.1 hedit
            obtain ⟨rest, hplace⟩ := exists_place_of_mem_editsOfMember hedit
            obtain ⟨added, _, hnone, hother⟩ := exists_place_of_mem_additionEdits hother
            rw [hplace, hother]
            refine apart_of_ne (fun heq => ?_) _ _
            rw [← heq, ha.1.get?_eq_some_iff.2 hmember] at hnone
            cases hnone
      | _ =>
          rw [editsBetween_of_leaf (by simp [isObject])]
          split
          · exact .nil
          · exact List.pairwise_singleton _ _

/-- The edits only put in what the second document holds. -/
private theorem canonical_of_mem_editsBetween {a b : Json} (ha : Canonical a) (hb : Canonical b)
    {edit : Edit} (h : edit ∈ editsBetween a b) : edit.change.Canonical := by
  induction a using memberInduction generalizing b edit with
  | leaf a hleaf =>
      rw [editsBetween_of_leaf (by simp [hleaf])] at h
      split at h
      · simp at h
      · obtain rfl := List.mem_singleton.1 h
        exact hb
  | members a ih =>
      cases b with
      | object b =>
          rw [editsBetween, List.mem_append] at h
          rcases h with h | h
          · obtain ⟨member, hmember, h⟩ := mem_memberEdits_iff.1 h
            rcases cases_of_mem_editsOfMember h with ⟨new, hnew, inner, hinner, rfl⟩ | ⟨_, rfl⟩
            · have hold := ha.1.get?_eq_some_iff.2 hmember
              have hchange : inner.change.Canonical :=
                ih member.1 member.2 hold (ha.2.get? hold) (hb.2.get? hnew) hinner
              exact hchange
            · trivial
          · obtain ⟨member, hmember, rfl⟩ := List.mem_map.1 h
            exact hb.2.get? (hb.1.get?_eq_some_iff.2 (List.mem_filter.1 hmember).1)
      | _ =>
          rw [editsBetween_of_leaf (by simp [isObject])] at h
          split at h
          · simp at h
          · obtain rfl := List.mem_singleton.1 h
            exact hb

/-! ## Where the edits lead -/

/-- No edit between two objects stands at the root. -/
theorem place_ne_nil_of_mem_editsBetween {a b : List (String × Json)} {edit : Edit}
    (h : edit ∈ editsBetween (object a) (object b)) : edit.place ≠ [] := by
  rw [editsBetween, List.mem_append] at h
  rcases h with h | h
  · obtain ⟨_, _, h⟩ := mem_memberEdits_iff.1 h
    obtain ⟨_, hrest⟩ := exists_place_of_mem_editsOfMember h
    simp [hrest]
  · obtain ⟨_, _, _, hrest⟩ := exists_place_of_mem_additionEdits h
    simp [hrest]

/-- What stands at the root of a value is never removed by the edits that lead to another one. -/
theorem exists_replace_of_place_nil {a b : Json} {edit : Edit} (h : edit ∈ editsBetween a b)
    (hplace : edit.place = []) : ∃ value, edit.change = .replace value := by
  by_cases hobjects : (a.isObject && b.isObject) = false
  · rw [editsBetween_of_leaf hobjects] at h
    split at h
    · simp at h
    · obtain rfl := List.mem_singleton.1 h
      exact ⟨b, rfl⟩
  · cases a <;> cases b <;> simp only [isObject, Bool.and_false, Bool.and_true,
      not_true_eq_false] at hobjects
    next a b => exact absurd hplace (place_ne_nil_of_mem_editsBetween h)

/-- Edits below the key of a member are made in that member, and nowhere else. -/
theorem applyAll?_below {edits : List Edit}
    (hroot : ∀ edit ∈ edits, edit.place = [] → ∃ value, edit.change = .replace value)
    {key : String} {old : Json} {members : List (String × Json)}
    (hsorted : Entries.Sorted members) (hold : Entries.get? key members = some old) :
    Edit.applyAll? (edits.map (Edit.below [key])) (object members) =
      (Edit.applyAll? edits old).map fun new => object (Entries.put key (some new) members) := by
  induction edits generalizing old members with
  | nil =>
      have hput := hsorted.put_get? key
      rw [hold] at hput
      simp [hput]
  | cons edit edits ih =>
      have hrest := fun e he => hroot e (List.mem_cons_of_mem edit he)
      have hone : (edit.below [key]).make? (object members) =
          (edit.make? old).map fun new => object (Entries.put key (some new) members) := by
        rw [Edit.make?, Edit.make?, Edit.below, List.singleton_append, alter?_object, hold]
        by_cases hplace : edit.place = []
        · obtain ⟨value, hvalue⟩ := hroot edit List.mem_cons_self hplace
          simp [hplace, hvalue, alterMember?, alter?, Change.make?]
        · rw [alterMember?_of_ne_nil _ hplace, Option.bind_some, Option.map_map]
          rfl
      rw [List.map_cons, Edit.applyAll?_cons, hone, Edit.applyAll?_cons]
      cases edit.make? old with
      | none => rfl
      | some next =>
          have hput : Entries.get? key (Entries.put key (some next) members) = some next := by
            simp [Entries.get?_put]
          rw [Option.map_some, Option.bind_some, Option.bind_some,
            ih hrest (hsorted.put key _) hput]
          simp only [hsorted.put_put]

/-- When the edits of each member put something under its key and change nothing else, the edits
of all members, one after another, leave that under their keys and everything else as it is. -/
theorem applyAll?_flatMap {f : String × Json → List Edit}
    {P : String → Option Json → Prop} {rest members : List (String × Json)}
    (hsorted : Entries.Sorted members) (hrest : Entries.Sorted rest)
    (hthere : ∀ member ∈ rest, Entries.get? member.1 members = some member.2)
    (hone : ∀ member ∈ rest, ∃ found, P member.1 found ∧
      ∀ around, Entries.Sorted around → Entries.get? member.1 around = some member.2 →
        Edit.applyAll? (f member) (object around) =
          some (object (Entries.put member.1 found around))) :
    ∃ result, Edit.applyAll? (rest.flatMap f) (object members) = some (object result) ∧
      Entries.Sorted result ∧
      ∀ key, if (Entries.get? key rest).isSome
        then P key (Entries.get? key result)
        else Entries.get? key result = Entries.get? key members := by
  induction rest generalizing members with
  | nil => exact ⟨members, rfl, hsorted, fun key => by simp⟩
  | cons member rest ih =>
      obtain ⟨key, old⟩ := member
      obtain ⟨hkey, hrest'⟩ := List.pairwise_cons.1 hrest
      obtain ⟨found, hfound, hstep⟩ := hone (key, old) List.mem_cons_self
      have hother : ∀ member ∈ rest,
          Entries.get? member.1 (Entries.put key found members) = some member.2 := by
        intro member hmember
        have hne : key ≠ member.1 := fun heq => String.lt_irrefl _ (heq ▸ hkey member hmember)
        rw [Entries.get?_put, if_neg hne]
        exact hthere member (List.mem_cons_of_mem _ hmember)
      obtain ⟨result, hresult, hsorted', hget⟩ := ih (hsorted.put key found) hrest' hother
        fun member hmember => hone member (List.mem_cons_of_mem _ hmember)
      refine ⟨result, ?_, hsorted', fun other => ?_⟩
      · rw [List.flatMap_cons, Edit.applyAll?_append,
          hstep members hsorted (hthere _ List.mem_cons_self)]
        exact hresult
      · have hget := hget other
        rw [Entries.get?_cons]
        by_cases hkeys : key = other
        · subst hkeys
          rw [Entries.get?_eq_none_of_lt hkey] at hget
          simp only [Option.isSome_none, Bool.false_eq_true, if_false, Entries.get?_put,
            if_true] at hget
          simpa [hget] using hfound
        · rw [if_neg hkeys]
          simpa [Entries.get?_put, hkeys] using hget

/-- The edits of a member leave what the second object has under its key. -/
private theorem exists_applyAll?_editsOfMember {b : List (String × Json)} {member : String × Json}
    (h : ∀ new, Entries.get? member.1 b = some new →
      ∃ c, Edit.applyAll? (editsBetween member.2 new) member.2 = some c ∧ equal c new = true) :
    ∃ found, EqualFound found (Entries.get? member.1 b) ∧
      ∀ around, Entries.Sorted around → Entries.get? member.1 around = some member.2 →
        Edit.applyAll? (editsOfMember b member) (object around) =
          some (object (Entries.put member.1 found around)) := by
  rw [editsOfMember]
  cases hnew : Entries.get? member.1 b with
  | none =>
      refine ⟨none, .none, fun around _ hold => ?_⟩
      simp [Edit.make?, alter?_object, alterMember?, Change.make?, hold]
  | some new =>
      obtain ⟨c, hc, heq⟩ := h new hnew
      refine ⟨some c, .some heq, fun around hsorted hold => ?_⟩
      show Edit.applyAll? ((editsBetween member.2 new).map (Edit.below [member.1])) _ = _
      rw [applyAll?_below (fun _ => exists_replace_of_place_nil) hsorted hold, hc]
      rfl

/-- Members that are not there can be added, one after another. -/
private theorem applyAll?_adds {fresh members : List (String × Json)}
    (hsorted : Entries.Sorted members) (hfresh : Entries.Sorted fresh)
    (hnone : ∀ member ∈ fresh, Entries.get? member.1 members = none) :
    ∃ result, Edit.applyAll? (fresh.map fun member => ⟨[member.1], .add member.2⟩)
        (object members) = some (object result) ∧
      Entries.Sorted result ∧
      ∀ key, Entries.get? key result =
        (Entries.get? key fresh).or (Entries.get? key members) := by
  induction fresh generalizing members with
  | nil => exact ⟨members, rfl, hsorted, fun key => by simp⟩
  | cons member fresh ih =>
      obtain ⟨key, value⟩ := member
      obtain ⟨hkey, hfresh'⟩ := List.pairwise_cons.1 hfresh
      have hadd : Edit.make? (object members) ⟨[key], .add value⟩ =
          some (object (Entries.put key (some value) members)) := by
        simp [Edit.make?, alter?_object, alterMember?, Change.make?,
          hnone (key, value) List.mem_cons_self]
      have hother : ∀ member ∈ fresh,
          Entries.get? member.1 (Entries.put key (some value) members) = none := by
        intro member hmember
        have hne : key ≠ member.1 := fun heq => String.lt_irrefl _ (heq ▸ hkey member hmember)
        rw [Entries.get?_put, if_neg hne]
        exact hnone member (List.mem_cons_of_mem _ hmember)
      obtain ⟨result, hresult, hsorted', hget⟩ := ih (hsorted.put key _) hfresh' hother
      refine ⟨result, by simp [hadd, hresult], hsorted', fun other => ?_⟩
      rw [hget, Entries.get?_put, Entries.get?_cons]
      by_cases hkeys : key = other
      · subst hkeys
        simp [Entries.get?_eq_none_of_lt hkey]
      · simp [hkeys]

/-- Dropping entries by their key leaves the look-ups of all other keys. -/
private theorem Entries.get?_filter_key {α : Type} (p : String → Bool) (key : String)
    (entries : List (String × α)) :
    Entries.get? key (entries.filter fun entry => p entry.1) =
      if p key then Entries.get? key entries else none := by
  induction entries with
  | nil => simp
  | cons entry entries ih =>
      obtain ⟨k, v⟩ := entry
      rw [List.filter_cons, Entries.get?_cons]
      by_cases hk : k = key
      · subst hk
        by_cases hp : p k <;> simp [hp, ih, Entries.get?_cons]
      · by_cases hp : p k <;> simp [hp, ih, Entries.get?_cons, hk]

private theorem equalFound_refl (found : Option Json) : EqualFound found found := by
  cases found with
  | none => exact .none
  | some value => exact .some (equal_self value)

/-- Made in order, the edits lead from the one document to the other. -/
theorem exists_applyAll?_editsBetween {a b : Json} (ha : Canonical a) (hb : Canonical b) :
    ∃ c, Edit.applyAll? (editsBetween a b) a = some c ∧ equal c b = true := by
  induction a using memberInduction generalizing b with
  | leaf a hleaf =>
      rw [editsBetween_of_leaf (by simp [hleaf])]
      split
      · next heq => exact ⟨a, rfl, heq⟩
      · exact ⟨b, rfl, equal_self b⟩
  | members a ih =>
      cases b with
      | object b =>
          have hgetSome : ∀ member ∈ a, Entries.get? member.1 a = some member.2 :=
            fun member hmember => ha.1.get?_eq_some_iff.2 hmember
          obtain ⟨middle, hmiddle, hsorted, hget⟩ :=
            applyAll?_flatMap (P := fun key found => EqualFound found (Entries.get? key b))
              ha.1 ha.1 hgetSome fun member hmember =>
                exists_applyAll?_editsOfMember fun new hnew =>
                  ih member.1 member.2 (hgetSome member hmember)
                    (ha.2.get? (hgetSome member hmember)) (hb.2.get? hnew)
          have hnone : ∀ member ∈ b.filter fun member => (Entries.get? member.1 a).isNone,
              Entries.get? member.1 middle = none := by
            intro member hmember
            have hmissing := Option.isNone_iff_eq_none.1 (List.mem_filter.1 hmember).2
            simpa [hmissing] using hget member.1
          obtain ⟨result, hresult, hsorted', hget'⟩ := applyAll?_adds hsorted
            (List.Pairwise.sublist List.filter_sublist hb.1) hnone
          refine ⟨object result, ?_, ?_⟩
          · rw [editsBetween, memberEdits_eq_flatMap, Edit.applyAll?_append, hmiddle]
            exact hresult
          · rw [equal]
            refine equalMembers_of_equalFound hsorted' hb.1 fun key => ?_
            rw [hget', Entries.get?_filter_key fun key => (Entries.get? key a).isNone]
            have hkey := hget key
            cases hleft : Entries.get? key a with
            | none =>
                simp only [hleft, Option.isSome_none, Bool.false_eq_true, if_false] at hkey
                simp [hkey, equalFound_refl]
            | some left => simpa [hleft] using hkey
      | _ =>
          rw [editsBetween_of_leaf (by simp [isObject])]
          split
          · next heq => exact ⟨_, rfl, heq⟩
          · exact ⟨_, rfl, equal_self _⟩

/-- Equal documents have no edit between them. -/
private theorem editsBetween_of_equal {a b : Json} (ha : Canonical a) (hb : Canonical b)
    (h : equal a b = true) : editsBetween a b = [] := by
  induction a using memberInduction generalizing b with
  | leaf a hleaf => rw [editsBetween_of_leaf (by simp [hleaf]), if_pos h]
  | members a ih =>
      cases b with
      | object b =>
          rw [equal] at h
          have hfound := equalFound_of_equalMembers h
          refine List.eq_nil_iff_forall_not_mem.2 fun edit hedit => ?_
          rw [editsBetween, List.mem_append] at hedit
          rcases hedit with hedit | hedit
          · obtain ⟨member, hmember, hedit⟩ := mem_memberEdits_iff.1 hedit
            have hold := ha.1.get?_eq_some_iff.2 hmember
            have hkey := hfound member.1
            rcases cases_of_mem_editsOfMember hedit with ⟨new, hnew, inner, hinner, _⟩ | ⟨hnone, _⟩
            · rw [hold, hnew] at hkey
              cases hkey with
              | some hvalue =>
                  rw [ih member.1 member.2 hold (ha.2.get? hold) (hb.2.get? hnew) hvalue] at hinner
                  exact absurd hinner List.not_mem_nil
            · rw [hold, hnone] at hkey
              cases hkey
          · obtain ⟨member, hmember, hnone, _⟩ := exists_place_of_mem_additionEdits hedit
            have hkey := hfound member.1
            rw [hnone, hb.1.get?_eq_some_iff.2 hmember] at hkey
            cases hkey
      | _ => simp [equal] at h

/-! ## The patch -/

/-- Only equal documents differ in nothing. -/
theorem difference_eq_nil_iff {a b : Json} (ha : Canonical a) (hb : Canonical b) :
    difference a b = [] ↔ equal a b = true := by
  have hedits := map_edit_difference a b
  constructor
  · intro hnil
    obtain ⟨c, hc, heq⟩ := exists_applyAll?_editsBetween ha hb
    rw [hnil, List.map_nil] at hedits
    rw [← hedits] at hc
    cases hc
    exact heq
  · intro hequal
    rw [editsBetween_of_equal ha hb hequal] at hedits
    exact List.map_eq_nil_iff.1 hedits

/-- What a list of operations has to be in order to be the patch from one document to another. -/
structure IsPatch (operations : List Operation) (a b : Json) : Prop where
  /-- No operation fails, and the last one leaves the second document. -/
  reaches : ∃ c, Operation.applyAll? operations a = some c ∧ equal c b = true
  /-- No path is that of another operation or leads to a place around it. -/
  apart : operations.Pairwise fun first second =>
    ¬ Pointer.keys first.path <+: Pointer.keys second.path ∧
      ¬ Pointer.keys second.path <+: Pointer.keys first.path
  /-- The operations lead to the same document in any order. -/
  anyOrder : ∀ others, others.Perm operations →
    Operation.applyAll? others a = Operation.applyAll? operations a
  /-- Only equal documents need no operation, and they need none. -/
  eq_nil_iff : operations = [] ↔ equal a b = true

/-- The difference of two documents is the patch from the first to the second. -/
theorem difference_isPatch {a b : Json} (ha : Canonical a) (hb : Canonical b) :
    IsPatch (difference a b) a b := by
  have hplace : ∀ operation : Operation,
      Pointer.keys operation.path = operation.edit.place := fun operation => by
    cases operation <;> rfl
  have hedits := map_edit_difference a b
  obtain ⟨c, hc, heq⟩ := exists_applyAll?_editsBetween ha hb
  have hapart := pairwise_apart_editsBetween ha hb
  refine ⟨⟨c, ?_, heq⟩, ?_, fun others hperm => ?_, difference_eq_nil_iff ha hb⟩
  · rw [Edit.applyAll?_operations, hedits]
    exact hc
  · rw [← hedits, List.pairwise_map] at hapart
    simp only [hplace]
    exact hapart
  · have hperm' := (hperm.map Operation.edit).symm
    rw [hedits] at hperm'
    rw [Edit.applyAll?_operations, Edit.applyAll?_operations, hedits]
    exact (Edit.applyAll?_perm hperm' hapart
      (fun edit hedit => canonical_of_mem_editsBetween ha hb hedit) ha).symm

/-- A document with keys that are empty or hold tildes, and one with a slash in a key. -/
def escapedBefore : Json :=
  object [("", null), ("a/b", object [("~01", null), ("~1", bool true)]), ("~", null)]

/-- The same document with a member removed, one changed below another, and one added. -/
def escapedAfter : Json :=
  object [("a/b", object [("~01", null), ("~1", bool false)]), ("a~1b", null), ("~", null)]

theorem difference_isPatch_escaped :
    Canonical escapedBefore ∧ Canonical escapedAfter ∧
      IsPatch (difference escapedBefore escapedAfter) escapedBefore escapedAfter := by
  have hbefore : Canonical escapedBefore := by
    simp only [escapedBefore, Canonical, CanonicalMembers, Entries.Sorted]
    decide
  have hafter : Canonical escapedAfter := by
    simp only [escapedAfter, Canonical, CanonicalMembers, Entries.Sorted]
    decide
  exact ⟨hbefore, hafter, difference_isPatch hbefore hafter⟩

end ClusterEvidence.Json
