import ClusterEvidence.Json.Basic

/-!
# Equality of JSON values

Two values may be equal without being the same, because the two zeros of a double are. Everything
that compares documents therefore works up to `Json.equal`, which is shown to be an equivalence
here. Objects are compared as lists of members; for sorted members that is the comparison of their
look-ups, which is the form in which the rest of the theory uses it.

## Main results

* `equal_symm`, `equal_trans` — with `equal_self`, equality is an equivalence.
* `equalFound_of_equalMembers`, `equalMembers_of_equalFound` — sorted members are equal when they
  answer every look-up alike.
-/

namespace ClusterEvidence

/-! ## Keys that a sorted list does not have -/

/-- A key in front of all entries is not found. -/
theorem Entries.get?_eq_none_of_lt {α : Type} {key : String} {entries : List (String × α)}
    (h : ∀ entry ∈ entries, key < entry.1) : Entries.get? key entries = none := by
  cases hget : Entries.get? key entries with
  | none => rfl
  | some value => exact absurd (h _ (Entries.mem_of_get? hget)) (String.lt_irrefl key)

namespace Json

/-! ## An equivalence -/

theorem Binary64.equal_symm {a b : Binary64} (h : a.equal b = true) : b.equal a = true := by
  simp only [Binary64.equal, Bool.and_eq_true, Bool.or_eq_true, beq_iff_eq] at h ⊢
  obtain ⟨⟨hmantissa, hexponent⟩, hsign⟩ := h
  exact ⟨⟨hmantissa.symm, hexponent.symm⟩, hsign.imp Eq.symm fun hzero => hmantissa ▸ hzero⟩

theorem Binary64.equal_trans {a b c : Binary64} (hab : a.equal b = true)
    (hbc : b.equal c = true) : a.equal c = true := by
  simp only [Binary64.equal, Bool.and_eq_true, Bool.or_eq_true, beq_iff_eq] at hab hbc ⊢
  obtain ⟨⟨hm, he⟩, hs⟩ := hab
  obtain ⟨⟨hm', he'⟩, hs'⟩ := hbc
  refine ⟨⟨hm.trans hm', he.trans he'⟩, ?_⟩
  rcases hs with hs | hs
  · rcases hs' with hs' | hs'
    · exact .inl (hs.trans hs')
    · exact .inr (hm.trans hs')
  · exact .inr hs

theorem Number.equal_symm {a b : Number} (h : a.equal b = true) : b.equal a = true := by
  cases a <;> cases b <;> simp_all [Number.equal]
  exact Binary64.equal_symm h

theorem Number.equal_trans {a b c : Number} (hab : a.equal b = true) (hbc : b.equal c = true) :
    a.equal c = true := by
  cases a <;> cases b <;> cases c <;> simp_all [Number.equal]
  exact Binary64.equal_trans hab hbc

mutual

theorem equal_symm : ∀ {a b : Json}, equal a b = true → equal b a = true
  | null, b, h => by cases b <;> simp_all [equal]
  | bool _, b, h => by cases b <;> simp_all [equal]
  | number _, b, h => by
      cases b <;> simp_all [equal]
      exact Number.equal_symm h
  | string _, b, h => by cases b <;> simp_all [equal]
  | array items, b, h => by
      cases b <;> simp_all [equal]
      exact equalItems_symm h
  | object members, b, h => by
      cases b <;> simp_all [equal]
      exact equalMembers_symm h

theorem equalItems_symm : ∀ {a b : List Json}, equalItems a b = true → equalItems b a = true
  | [], b, h => by cases b <;> simp_all [equalItems]
  | _ :: _, [], h => by simp [equalItems] at h
  | a :: as, b :: bs, h => by
      simp only [equalItems, Bool.and_eq_true] at h ⊢
      exact ⟨equal_symm h.1, equalItems_symm h.2⟩

theorem equalMembers_symm : ∀ {a b : List (String × Json)},
    equalMembers a b = true → equalMembers b a = true
  | [], b, h => by cases b <;> simp_all [equalMembers]
  | _ :: _, [], h => by simp [equalMembers] at h
  | (k, a) :: as, (l, b) :: bs, h => by
      simp only [equalMembers, Bool.and_eq_true, beq_iff_eq] at h ⊢
      exact ⟨⟨h.1.1.symm, equal_symm h.1.2⟩, equalMembers_symm h.2⟩

end

mutual

theorem equal_trans : ∀ {a b c : Json}, equal a b = true → equal b c = true → equal a c = true
  | null, b, c, h, h' => by cases b <;> cases c <;> simp_all [equal]
  | bool _, b, c, h, h' => by cases b <;> cases c <;> simp_all [equal]
  | number _, b, c, h, h' => by
      cases b <;> cases c <;> simp_all [equal]
      exact Number.equal_trans h h'
  | string _, b, c, h, h' => by cases b <;> cases c <;> simp_all [equal]
  | array items, b, c, h, h' => by
      cases b <;> cases c <;> simp_all [equal]
      exact equalItems_trans h h'
  | object members, b, c, h, h' => by
      cases b <;> cases c <;> simp_all [equal]
      exact equalMembers_trans h h'

theorem equalItems_trans : ∀ {a b c : List Json},
    equalItems a b = true → equalItems b c = true → equalItems a c = true
  | [], b, c, h, h' => by cases b <;> cases c <;> simp_all [equalItems]
  | _ :: _, [], _, h, _ => by simp [equalItems] at h
  | _ :: _, _ :: _, [], _, h' => by simp [equalItems] at h'
  | a :: as, b :: bs, c :: cs, h, h' => by
      simp only [equalItems, Bool.and_eq_true] at h h' ⊢
      exact ⟨equal_trans h.1 h'.1, equalItems_trans h.2 h'.2⟩

theorem equalMembers_trans : ∀ {a b c : List (String × Json)},
    equalMembers a b = true → equalMembers b c = true → equalMembers a c = true
  | [], b, c, h, h' => by cases b <;> cases c <;> simp_all [equalMembers]
  | _ :: _, [], _, h, _ => by simp [equalMembers] at h
  | _ :: _, _ :: _, [], _, h' => by simp [equalMembers] at h'
  | (k, a) :: as, (l, b) :: bs, (m, c) :: cs, h, h' => by
      simp only [equalMembers, Bool.and_eq_true, beq_iff_eq] at h h' ⊢
      exact ⟨⟨h.1.1.trans h'.1.1, equal_trans h.1.2 h'.1.2⟩, equalMembers_trans h.2 h'.2⟩

end

/-- A string equals itself only. -/
theorem eq_string_of_equal {text : String} {value : Json} (h : equal (.string text) value = true) :
    value = .string text := by
  cases value <;> simp only [equal, Bool.false_eq_true] at h
  next other => rw [eq_of_beq h]

/-- Only an object equals an object. -/
theorem isObject_of_equal {a b : Json} (h : equal a b = true) : a.isObject = b.isObject := by
  cases a <;> cases b <;> simp_all [equal, isObject]

/-! ## Members through their look-ups -/

/-- Equality of two look-ups: nothing found in either, or equal values. -/
abbrev EqualFound : Option Json → Option Json → Prop := Option.Rel fun a b => equal a b = true

private theorem equalFound_symm {a b : Option Json} (h : EqualFound a b) : EqualFound b a := by
  cases h with
  | none => exact .none
  | some h => exact .some (equal_symm h)

/-- Equal members answer every look-up alike. -/
theorem equalFound_of_equalMembers {a b : List (String × Json)} (h : equalMembers a b = true)
    (key : String) : EqualFound (Entries.get? key a) (Entries.get? key b) := by
  induction a generalizing b with
  | nil =>
      cases b with
      | nil => exact .none
      | cons => simp [equalMembers] at h
  | cons member a ih =>
      obtain ⟨k, v⟩ := member
      cases b with
      | nil => simp [equalMembers] at h
      | cons other b =>
          obtain ⟨l, w⟩ := other
          simp only [equalMembers, Bool.and_eq_true, beq_iff_eq] at h
          obtain ⟨⟨rfl, hvalue⟩, hrest⟩ := h
          rw [Entries.get?_cons, Entries.get?_cons]
          split
          · exact .some hvalue
          · exact ih hrest

/-- Of two sorted lists that answer alike, neither begins with a smaller key. -/
private theorem not_lt_of_equalFound {k l : String} {v w : Json} {a b : List (String × Json)}
    (hb : Entries.Sorted ((l, w) :: b))
    (h : EqualFound (Entries.get? k ((k, v) :: a)) (Entries.get? k ((l, w) :: b))) : ¬ k < l := by
  intro hlt
  have hnone : Entries.get? k ((l, w) :: b) = none :=
    Entries.get?_eq_none_of_lt fun entry hentry => by
      rcases List.mem_cons.1 hentry with rfl | hentry
      · exact hlt
      · exact String.lt_trans hlt ((List.pairwise_cons.1 hb).1 entry hentry)
  rw [hnone, Entries.get?_cons, if_pos rfl] at h
  cases h

/-- Sorted members that answer every look-up alike are equal. -/
theorem equalMembers_of_equalFound {a b : List (String × Json)} (ha : Entries.Sorted a)
    (hb : Entries.Sorted b)
    (h : ∀ key, EqualFound (Entries.get? key a) (Entries.get? key b)) :
    equalMembers a b = true := by
  induction a generalizing b with
  | nil =>
      cases b with
      | nil => rfl
      | cons other b =>
          obtain ⟨l, w⟩ := other
          have hl := h l
          rw [Entries.get?_cons, if_pos rfl] at hl
          cases hl
  | cons member a ih =>
      obtain ⟨k, v⟩ := member
      cases b with
      | nil =>
          have hk := h k
          rw [Entries.get?_cons, if_pos rfl] at hk
          cases hk
      | cons other b =>
          obtain ⟨l, w⟩ := other
          obtain ⟨hak, ha'⟩ := List.pairwise_cons.1 ha
          obtain ⟨hbl, hb'⟩ := List.pairwise_cons.1 hb
          have hle : l ≤ k := String.not_lt.1 (not_lt_of_equalFound hb (h k))
          have hge : k ≤ l := String.not_lt.1 (not_lt_of_equalFound ha (equalFound_symm (h l)))
          obtain rfl : k = l := String.le_antisymm hge hle
          have hvalue : equal v w = true := by
            have hk := h k
            rw [Entries.get?_cons, Entries.get?_cons, if_pos rfl, if_pos rfl] at hk
            cases hk with
            | some hk => exact hk
          have hrest : ∀ key, EqualFound (Entries.get? key a) (Entries.get? key b) := by
            intro key
            by_cases hkey : k = key
            · subst hkey
              rw [Entries.get?_eq_none_of_lt hak, Entries.get?_eq_none_of_lt hbl]
              exact .none
            · simpa [Entries.get?_cons, hkey] using h key
          simp [equalMembers, hvalue, ih ha' hb' hrest]

/-! ## Canonical values below an array or object -/

theorem canonicalItems_iff {items : List Json} :
    CanonicalItems items ↔ ∀ item ∈ items, Canonical item := by
  induction items with
  | nil => simp [CanonicalItems]
  | cons item items ih => simp [CanonicalItems, ih]

theorem canonicalMembers_iff {members : List (String × Json)} :
    CanonicalMembers members ↔ ∀ member ∈ members, Canonical member.2 := by
  induction members with
  | nil => simp [CanonicalMembers]
  | cons member members ih => simp [CanonicalMembers, ih]

/-- The members of a canonical object are canonical. -/
theorem CanonicalMembers.get? {members : List (String × Json)} (h : CanonicalMembers members)
    {key : String} {value : Json} (hget : Entries.get? key members = some value) :
    Canonical value :=
  canonicalMembers_iff.1 h _ (Entries.mem_of_get? hget)

end Json

end ClusterEvidence
