import ClusterEvidence.Json.Meet
import ClusterEvidence.Json.Reader
import ClusterEvidence.Proofs.Json.Equality

/-!
# The meet is the greatest lower bound

`Below` is a preorder on JSON values whose equivalence is `Json.equal`, and `meet?` computes the
greatest lower bound of two values that have one. `IsMeet` states the same of any number of values;
it grows by one value at a time, so that a fold of `meet?` reaches the meet of all that it has
seen, whatever their order.

Proofs go through the members of objects by look-up (`memberInduction`), since that is all that
`Below` speaks about.

## Main results

* `below_of_meet?`, `exists_meet?_above` — the meet of two values is their greatest lower bound.
* `common?_concat` — what values have in common grows by one value at a time.
* `IsMeet.step` — the meet with one more value.
* `IsMeet.equal_of_same` — values that are the same up to equality have the same meet.
* `IsMeet.exists_memberAt?_equal`, `IsMeet.exists_memberAt?_above` — at every depth, a meet keeps
  what all values have and nothing else.
-/

namespace ClusterEvidence.Json

/-! ## Induction through look-ups -/

/-- A property of values that holds of an object as soon as it holds of all members that can be
found, and of everything that is not an object, holds of all values. -/
theorem memberInduction {motive : Json → Prop}
    (leaf : ∀ value, value.isObject = false → motive value)
    (members : ∀ members, (∀ key value, Entries.get? key members = some value → motive value) →
      motive (object members)) (value : Json) : motive value := by
  cases value with
  | object found =>
      refine members found fun key value hget => ?_
      have : sizeOf value < 1 + sizeOf found := by
        have hmem := List.sizeOf_lt_of_mem (Entries.mem_of_get? hget)
        simp only [Prod.mk.sizeOf_spec] at hmem
        omega
      exact memberInduction leaf members value
  | _ => exact leaf _ rfl
termination_by sizeOf value

/-! ## The order -/

/-- An object is below another one when that has all its members with values above. -/
theorem below_object_iff {a b : List (String × Json)} :
    Below (object a) (object b) ↔
      ∀ key left, Entries.get? key a = some left →
        ∃ right, Entries.get? key b = some right ∧ Below left right := by
  constructor
  · intro h key left hleft
    cases h with
    | of_equal h =>
        rw [equal] at h
        have hfound := equalFound_of_equalMembers h key
        rw [hleft] at hfound
        cases hright : Entries.get? key b with
        | none => rw [hright] at hfound; cases hfound
        | some right =>
            rw [hright] at hfound
            cases hfound with
            | some hvalue => exact ⟨right, rfl, .of_equal hvalue⟩
    | of_members present below =>
        obtain ⟨right, hright⟩ := Option.isSome_iff_exists.1 (present key left hleft)
        exact ⟨right, hright, below key left right hleft hright⟩
  · intro h
    refine .of_members (fun key left hleft => ?_) fun key left right hleft hright => ?_
    · obtain ⟨right, hright, _⟩ := h key left hleft
      simp [hright]
    · obtain ⟨found, hfound, hbelow⟩ := h key left hleft
      rw [hright, Option.some.injEq] at hfound
      exact hfound ▸ hbelow

/-- Objects are below objects only, and other values below other values. -/
theorem Below.isObject_eq {a b : Json} (h : Below a b) : a.isObject = b.isObject := by
  cases h with
  | of_equal h => exact isObject_of_equal h
  | of_members => rfl

/-- What is not an object is below its equals only. -/
private theorem Below.equal_of_leaf {a b : Json} (h : Below a b) (ha : a.isObject = false) :
    equal a b = true := by
  cases h with
  | of_equal h => exact h
  | of_members => simp [isObject] at ha

/-- What is below an object is an object. -/
private theorem Below.eq_object {a : Json} {b : List (String × Json)} (h : Below a (object b)) :
    ∃ members, a = object members := by
  have hobject := h.isObject_eq
  cases a <;> simp_all [isObject]

/-- What is above an object is an object. -/
theorem Below.eq_object_of_object {a : List (String × Json)} {b : Json}
    (h : Below (object a) b) : ∃ members, b = object members := by
  have hobject := h.isObject_eq
  cases b <;> simp_all [isObject]

/-- A value equal to a lower one is lower too. -/
private theorem Below.of_equal_left {a b c : Json} (hab : equal a b = true) (hbc : Below b c) :
    Below a c := by
  induction hbc generalizing a with
  | of_equal h => exact .of_equal (equal_trans hab h)
  | @of_members b c present below ih =>
      cases a <;> simp only [equal, Bool.false_eq_true] at hab
      next members =>
        refine below_object_iff.2 fun key left hleft => ?_
        have hfound := equalFound_of_equalMembers hab key
        rw [hleft] at hfound
        cases hmiddle : Entries.get? key b with
        | none => rw [hmiddle] at hfound; cases hfound
        | some middle =>
            rw [hmiddle] at hfound
            cases hfound with
            | some hvalue =>
                obtain ⟨right, hright⟩ := Option.isSome_iff_exists.1 (present key middle hmiddle)
                exact ⟨right, hright, ih key middle right hmiddle hright hvalue⟩

theorem Below.trans {a b c : Json} (hab : Below a b) (hbc : Below b c) : Below a c := by
  induction hab generalizing c with
  | of_equal h => exact hbc.of_equal_left h
  | @of_members a b present below ih =>
      obtain ⟨c, rfl⟩ := hbc.eq_object_of_object
      refine below_object_iff.2 fun key left hleft => ?_
      obtain ⟨middle, hmiddle⟩ := Option.isSome_iff_exists.1 (present key left hleft)
      obtain ⟨right, hright, hbelow⟩ := below_object_iff.1 hbc key middle hmiddle
      exact ⟨right, hright, ih key left middle hleft hmiddle hbelow⟩

/-- Canonical values that are below each other are equal. -/
theorem Below.antisymm {a b : Json} (ha : Canonical a) (hb : Canonical b) (hab : Below a b)
    (hba : Below b a) : equal a b = true := by
  induction a using memberInduction generalizing b with
  | leaf a hleaf => exact hab.equal_of_leaf hleaf
  | members a ih =>
      obtain ⟨b, rfl⟩ := hba.eq_object
      rw [equal]
      refine equalMembers_of_equalFound ha.1 hb.1 fun key => ?_
      cases hleft : Entries.get? key a with
      | none =>
          cases hright : Entries.get? key b with
          | none => exact .none
          | some right =>
              obtain ⟨left, hfound, _⟩ := below_object_iff.1 hba key right hright
              rw [hleft] at hfound
              cases hfound
      | some left =>
          obtain ⟨right, hright, hbelow⟩ := below_object_iff.1 hab key left hleft
          obtain ⟨found, hfound, habove⟩ := below_object_iff.1 hba key right hright
          rw [hleft, Option.some.injEq] at hfound
          subst hfound
          rw [hright]
          exact .some (ih key left hleft (ha.2.get? hleft) (hb.2.get? hright) hbelow habove)

/-! ## The meet of two values -/

/-- Of values that are not both objects, the meet is the first one when they are equal. -/
theorem meet?_of_leaf {a b : Json} (h : (a.isObject && b.isObject) = false) :
    meet? a b = if equal a b then some a else none := by
  cases a <;> cases b <;> first | rfl | simp [isObject] at h

/-- The keys of a meet are keys of the first object. -/
private theorem exists_mem_of_mem_meetMembers {a b : List (String × Json)} {entry : String × Json}
    (h : entry ∈ meetMembers a b) : ∃ value, (entry.1, value) ∈ a := by
  induction a with
  | nil => simp [meetMembers] at h
  | cons member a ih =>
      obtain ⟨k, left⟩ := member
      rw [meetMembers] at h
      split at h
      · exact (ih h).imp fun _ => List.mem_cons_of_mem _
      · split at h
        · exact (ih h).imp fun _ => List.mem_cons_of_mem _
        · rcases List.mem_cons.1 h with rfl | h
          · exact ⟨left, List.mem_cons_self⟩
          · exact (ih h).imp fun _ => List.mem_cons_of_mem _

/-- The members of a meet stay in the order of the first object. -/
theorem sorted_meetMembers {a : List (String × Json)} (ha : Entries.Sorted a)
    (b : List (String × Json)) : Entries.Sorted (meetMembers a b) := by
  induction a with
  | nil => exact .nil
  | cons member a ih =>
      obtain ⟨k, left⟩ := member
      obtain ⟨hk, ha'⟩ := List.pairwise_cons.1 ha
      rw [meetMembers]
      split
      · exact ih ha'
      · split
        · exact ih ha'
        · refine List.pairwise_cons.2 ⟨fun entry hentry => ?_, ih ha'⟩
          obtain ⟨value, hmem⟩ := exists_mem_of_mem_meetMembers hentry
          exact hk (entry.1, value) hmem

/-- A member of the meet is the meet of the members of both. -/
theorem get?_meetMembers {a : List (String × Json)} (ha : Entries.Sorted a)
    (b : List (String × Json)) (key : String) :
    Entries.get? key (meetMembers a b) =
      (Entries.get? key a).bind fun left => (Entries.get? key b).bind (meet? left) := by
  induction a with
  | nil => rfl
  | cons member a ih =>
      obtain ⟨k, left⟩ := member
      obtain ⟨hk, ha'⟩ := List.pairwise_cons.1 ha
      -- When the first member has no meet its key must not be found further on.
      have hskip : k = key → Entries.get? key (meetMembers a b) = none := fun heq => by
        rw [ih ha', ← heq, Entries.get?_eq_none_of_lt hk]
        rfl
      rw [meetMembers, Entries.get?_cons]
      split
      · next hright =>
          split
          · next heq => rw [hskip heq, ← heq]; simp [hright]
          · exact ih ha'
      · next right hright =>
          split
          · next hmeet =>
              split
              · next heq => rw [hskip heq, ← heq]; simp [hright, hmeet]
              · exact ih ha'
          · next common hmeet =>
              rw [Entries.get?_cons]
              split
              · next heq => rw [← heq]; simp [hright, hmeet]
              · exact ih ha'

/-- A meet with a canonical value is canonical. -/
theorem canonical_of_meet? {a b m : Json} (ha : Canonical a) (h : meet? a b = some m) :
    Canonical m := by
  induction a using memberInduction generalizing b m with
  | leaf a hleaf =>
      rw [meet?_of_leaf (by simp [hleaf])] at h
      split at h
      · cases h
        exact ha
      · cases h
  | members a ih =>
      cases b with
      | object b =>
          rw [meet?, Option.some.injEq] at h
          subst h
          have hsorted := sorted_meetMembers ha.1 b
          refine ⟨hsorted, canonicalMembers_iff.2 fun member hmember => ?_⟩
          have hget := hsorted.get?_eq_some_iff.2 hmember
          rw [get?_meetMembers ha.1, Option.bind_eq_some_iff] at hget
          obtain ⟨left, hleft, hget⟩ := hget
          obtain ⟨right, _, hmeet⟩ := Option.bind_eq_some_iff.1 hget
          exact ih _ left hleft (ha.2.get? hleft) hmeet
      | _ => simp [meet?, equal] at h

/-- The meet is below both values. -/
theorem below_of_meet? {a b m : Json} (ha : Canonical a) (h : meet? a b = some m) :
    Below m a ∧ Below m b := by
  induction a using memberInduction generalizing b m with
  | leaf a hleaf =>
      rw [meet?_of_leaf (by simp [hleaf])] at h
      split at h
      · next heq =>
          cases h
          exact ⟨.refl a, .of_equal heq⟩
      · cases h
  | members a ih =>
      cases b with
      | object b =>
          rw [meet?, Option.some.injEq] at h
          subst h
          have hmember : ∀ key value, Entries.get? key (meetMembers a b) = some value →
              ∃ left right, Entries.get? key a = some left ∧ Entries.get? key b = some right ∧
                Below value left ∧ Below value right := by
            intro key value hget
            rw [get?_meetMembers ha.1, Option.bind_eq_some_iff] at hget
            obtain ⟨left, hleft, hget⟩ := hget
            obtain ⟨right, hright, hmeet⟩ := Option.bind_eq_some_iff.1 hget
            exact ⟨left, right, hleft, hright, ih key left hleft (ha.2.get? hleft) hmeet⟩
          constructor
          · refine below_object_iff.2 fun key value hget => ?_
            obtain ⟨left, _, hleft, _, hbelow, _⟩ := hmember key value hget
            exact ⟨left, hleft, hbelow⟩
          · refine below_object_iff.2 fun key value hget => ?_
            obtain ⟨_, right, _, hright, _, hbelow⟩ := hmember key value hget
            exact ⟨right, hright, hbelow⟩
      | _ => simp [meet?, equal] at h

/-- Values with a common lower bound have a meet, which is above the bound. -/
theorem exists_meet?_above {a b c : Json} (ha : Canonical a) (hca : Below c a) (hcb : Below c b) :
    ∃ m, meet? a b = some m ∧ Below c m := by
  induction a using memberInduction generalizing b c with
  | leaf a hleaf =>
      have hc : c.isObject = false := hca.isObject_eq.trans hleaf
      have hab : equal a b = true :=
        equal_trans (equal_symm (hca.equal_of_leaf hc)) (hcb.equal_of_leaf hc)
      have hmeet : meet? a b = some a := by
        rw [meet?_of_leaf (by simp [hleaf]), if_pos hab]
      exact ⟨a, hmeet, hca⟩
  | members a ih =>
      obtain ⟨c, rfl⟩ := hca.eq_object
      obtain ⟨b, rfl⟩ := hcb.eq_object_of_object
      refine ⟨_, by rw [meet?], below_object_iff.2 fun key bound hbound => ?_⟩
      obtain ⟨left, hleft, hbelow⟩ := below_object_iff.1 hca key bound hbound
      obtain ⟨right, hright, hbelow'⟩ := below_object_iff.1 hcb key bound hbound
      obtain ⟨common, hmeet, habove⟩ := ih key left hleft (ha.2.get? hleft) hbelow hbelow'
      exact ⟨common, by simp [get?_meetMembers ha.1, hleft, hright, hmeet], habove⟩

/-- Two objects always have something in common, if only an object without members. -/
theorem exists_meet?_of_isObject {a b : Json} (ha : a.isObject = true) (hb : b.isObject = true) :
    ∃ m, meet? a b = some m ∧ m.isObject = true := by
  cases a <;> simp only [isObject, Bool.false_eq_true] at ha
  cases b <;> simp only [isObject, Bool.false_eq_true] at hb
  exact ⟨_, by rw [meet?], rfl⟩

/-- The meet of equal values is the first of them. -/
theorem meet?_of_equal {a b : Json} (ha : Canonical a) (h : equal a b = true) :
    meet? a b = some a := by
  induction a using memberInduction generalizing b with
  | leaf a hleaf => rw [meet?_of_leaf (by simp [hleaf]), if_pos h]
  | members a ih =>
      cases b <;> simp only [equal, Bool.false_eq_true] at h
      next b =>
        have hmembers : meetMembers a b = a := by
          refine (sorted_meetMembers ha.1 b).ext ha.1 fun key => ?_
          rw [get?_meetMembers ha.1]
          have hfound := equalFound_of_equalMembers h key
          cases hleft : Entries.get? key a with
          | none => rfl
          | some left =>
              rw [hleft] at hfound
              cases hright : Entries.get? key b with
              | none => rw [hright] at hfound; cases hfound
              | some right =>
                  rw [hright] at hfound
                  cases hfound with
                  | some hvalue => exact ih key left hleft (ha.2.get? hleft) hvalue
        rw [meet?, hmembers]

/-! ## The meet of many values -/

/-- What values have in common, taken one after another. -/
def common? : List Json → Option Json
  | [] => none
  | value :: others => others.foldlM meet? value

/-- One more value leaves its meet with what the others have in common. -/
theorem common?_concat {values : List Json} {common : Json} (h : common? values = some common)
    (value : Json) : common? (values ++ [value]) = meet? common value := by
  cases values with
  | nil => cases h
  | cons first others =>
      show (others ++ [value]).foldlM meet? first = meet? common value
      have hothers : others.foldlM meet? first = some common := h
      rw [List.foldlM_append, hothers]
      exact bind_pure (meet? common value)

/-- Objects always have something in common. -/
theorem exists_common?_of_isObject {values : List Json} (hne : values ≠ [])
    (h : ∀ value ∈ values, value.isObject = true) :
    ∃ common, common? values = some common ∧ common.isObject = true := by
  cases values with
  | nil => exact absurd rfl hne
  | cons value others =>
      have hvalue : value.isObject = true := h value List.mem_cons_self
      have hothers := fun other hother => h other (List.mem_cons_of_mem value hother)
      clear h hne
      induction others generalizing value with
      | nil => exact ⟨value, rfl, hvalue⟩
      | cons next others ih =>
          obtain ⟨both, hboth, hobject⟩ :=
            exists_meet?_of_isObject hvalue (hothers next List.mem_cons_self)
          have hstep : common? (value :: next :: others) = common? (both :: others) := by
            show (next :: others).foldlM meet? value = others.foldlM meet? both
            rw [List.foldlM_cons, hboth]
            rfl
          rw [hstep]
          exact ih both hobject fun other hother => hothers other (List.mem_cons_of_mem next hother)

/-- The greatest lower bound of all values of a set. -/
structure IsMeet (values : Json → Prop) (meet : Json) : Prop where
  below : ∀ value, values value → Below meet value
  greatest : ∀ bound, (∀ value, values value → Below bound value) → Below bound meet

namespace IsMeet

variable {values others : Json → Prop} {meet : Json}

/-- A value that equals all others is their meet. -/
theorem of_equal {value : Json} (hvalue : values value)
    (h : ∀ other, values other → equal value other = true) : IsMeet values value :=
  ⟨fun other hother => .of_equal (h other hother), fun _ hbound => hbound value hvalue⟩

/-- Sets that are the same up to equality have the same meets. -/
private theorem of_same (h : IsMeet values meet)
    (hforth : ∀ value, values value → ∃ other, others other ∧ equal value other = true)
    (hback : ∀ other, others other → ∃ value, values value ∧ equal value other = true) :
    IsMeet others meet where
  below other hother := by
    obtain ⟨value, hvalue, heq⟩ := hback other hother
    exact (h.below value hvalue).trans (.of_equal heq)
  greatest bound hbound := by
    refine h.greatest bound fun value hvalue => ?_
    obtain ⟨other, hother, heq⟩ := hforth value hvalue
    exact (hbound other hother).trans (.of_equal (equal_symm heq))

/-- The meet with one more value. -/
theorem step (h : IsMeet values meet) (hcanonical : Canonical meet) {value common : Json}
    (hmeet : meet? meet value = some common) :
    IsMeet (fun other => values other ∨ other = value) common := by
  obtain ⟨hleft, hright⟩ := below_of_meet? hcanonical hmeet
  refine ⟨fun other hother => ?_, fun bound hbound => ?_⟩
  · rcases hother with hother | rfl
    · exact hleft.trans (h.below other hother)
    · exact hright
  · have hbelow : Below bound meet :=
      h.greatest bound fun other hother => hbound other (.inl hother)
    obtain ⟨found, hfound, habove⟩ :=
      exists_meet?_above hcanonical hbelow (hbound value (.inr rfl))
    rw [hmeet, Option.some.injEq] at hfound
    exact hfound ▸ habove

/-- One more value that equals the meet changes nothing. -/
theorem step_of_equal (h : IsMeet values meet) {value : Json} (heq : equal meet value = true) :
    IsMeet (fun other => values other ∨ other = value) meet := by
  refine ⟨fun other hother => ?_, fun bound hbound => ?_⟩
  · rcases hother with hother | rfl
    · exact h.below other hother
    · exact .of_equal heq
  · exact h.greatest bound fun other hother => hbound other (.inl hother)

/-- Canonical meets of sets that are the same up to equality are equal. -/
theorem equal_of_same {other : Json} (h : IsMeet values meet) (h' : IsMeet others other)
    (hmeet : Canonical meet) (hother : Canonical other)
    (hforth : ∀ value, values value → ∃ other, others other ∧ equal value other = true)
    (hback : ∀ other, others other → ∃ value, values value ∧ equal value other = true) :
    equal meet other = true := by
  have hsame := h.of_same hforth hback
  exact Below.antisymm hmeet hother (h'.greatest meet hsame.below) (hsame.greatest other h'.below)

end IsMeet

/-! ## What a meet keeps at any depth -/

/-- The value that the keys of nested objects lead to. -/
def memberAt? : List String → Json → Option Json
  | [], value => some value
  | key :: path, value => (member? key value).bind (memberAt? path)

/-- The value that holds nothing but another one under nested keys. -/
def nest : List String → Json → Json
  | [], value => value
  | key :: path, value => object [(key, nest path value)]

/-- What a lower value has somewhere, a higher one has there too. -/
private theorem Below.exists_memberAt? {a b x : Json} (h : Below a b) {path : List String}
    (hx : memberAt? path a = some x) : ∃ y, memberAt? path b = some y ∧ Below x y := by
  induction path generalizing a b with
  | nil =>
      cases hx
      exact ⟨b, rfl, h⟩
  | cons key path ih =>
      obtain ⟨left, hleft, hrest⟩ := Option.bind_eq_some_iff.1 hx
      cases a <;> simp only [member?, reduceCtorEq] at hleft
      next a =>
        obtain ⟨b, rfl⟩ := h.eq_object_of_object
        obtain ⟨right, hright, hbelow⟩ := below_object_iff.1 h key left hleft
        obtain ⟨y, hy, hbelow⟩ := ih hbelow hrest
        exact ⟨y, by simp [memberAt?, member?, hright, hy], hbelow⟩

/-- A nested value is below every document that has one above it in the same place. -/
private theorem below_of_memberAt? {path : List String} {a x y : Json}
    (hy : memberAt? path a = some y) (h : Below x y) : Below (nest path x) a := by
  induction path generalizing a with
  | nil =>
      cases hy
      exact h
  | cons key path ih =>
      obtain ⟨right, hright, hrest⟩ := Option.bind_eq_some_iff.1 hy
      cases a <;> simp only [member?, reduceCtorEq] at hright
      next a =>
        refine below_object_iff.2 fun other left hleft => ?_
        simp only [Entries.get?_cons, Entries.get?_nil, Option.ite_none_right_eq_some,
          Option.some.injEq] at hleft
        obtain ⟨rfl, rfl⟩ := hleft
        exact ⟨right, hright, ih hrest⟩

private theorem memberAt?_nest (path : List String) (x : Json) :
    memberAt? path (nest path x) = some x := by
  induction path with
  | nil => rfl
  | cons key path ih => simp [memberAt?, nest, member?, Entries.get?_cons, ih]

/-- What stands in a canonical value is canonical. -/
private theorem canonical_of_memberAt? {path : List String} {a x : Json} (ha : Canonical a)
    (h : memberAt? path a = some x) : Canonical x := by
  induction path generalizing a with
  | nil =>
      cases h
      exact ha
  | cons key path ih =>
      obtain ⟨next, hnext, hrest⟩ := Option.bind_eq_some_iff.1 h
      cases a <;> simp only [member?, reduceCtorEq] at hnext
      exact ih (ha.2.get? hnext) hrest

namespace IsMeet

variable {values : Json → Prop} {meet : Json}

/-- A value that all have in some place, up to equality, is in that place of the meet. -/
theorem exists_memberAt?_equal (h : IsMeet values meet) (hmeet : Canonical meet)
    (hnonempty : ∃ value, values value) {path : List String} {x : Json} (hx : Canonical x)
    (hall : ∀ value, values value → ∃ y, memberAt? path value = some y ∧ equal x y = true) :
    ∃ y, memberAt? path meet = some y ∧ equal x y = true := by
  have hbelow : Below (nest path x) meet := h.greatest _ fun value hvalue => by
    obtain ⟨y, hy, heq⟩ := hall value hvalue
    exact below_of_memberAt? hy (.of_equal heq)
  obtain ⟨y, hy, hxy⟩ := hbelow.exists_memberAt? (memberAt?_nest path x)
  obtain ⟨value, hvalue⟩ := hnonempty
  obtain ⟨z, hz, hyz⟩ := (h.below value hvalue).exists_memberAt? hy
  obtain ⟨found, hfound, heq⟩ := hall value hvalue
  rw [hz, Option.some.injEq] at hfound
  subst hfound
  exact ⟨y, hy, Below.antisymm hx (canonical_of_memberAt? hmeet hy) hxy
    (hyz.trans (.of_equal (equal_symm heq)))⟩

/-- What a meet has in some place, every value has there, with more members at most. -/
theorem exists_memberAt?_above (h : IsMeet values meet) {path : List String} {x : Json}
    (hx : memberAt? path meet = some x) {value : Json} (hvalue : values value) :
    ∃ y, memberAt? path value = some y ∧ Below x y :=
  (h.below value hvalue).exists_memberAt? hx

end IsMeet

end ClusterEvidence.Json
