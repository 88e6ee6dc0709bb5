import ClusterEvidence.Traverse

/-!
# Passes that end and passes that fail

A pass has all the values when every member of the list has one; otherwise it ends with the failure
of the first member that has none.

## Main results

* `mapAll_eq_ok`, `mapAll_eq_ok_iff`, `gather_eq_ok_iff` — the values of a pass that ends.
* `exists_gather_eq_ok_iff`, `exists_gather_eq_error_iff` — when a pass ends, and when it fails.
* `exists_of_mem_mapAll`, `exists_of_mem_gather` — the member that a value comes from.
* `exists_of_mapAll_eq_error`, `mapAll_eq_error_iff`, `gather_eq_error_iff` — where a pass fails.
* `exists_of_forall_or_first` — every member has a value, or the pass fails with the first that
  has none.
* `foldlM_preserves` — a fold keeps what each of its steps keeps.
* `exists_of_foldlM_eq_error` — a fold that fails goes through up to a member at which it fails.
* `SameResult.gather_bind` — two passes one after the other give what the second gives when it is
  made for each member of the first at once.
* `Corresponds.bind`, `Corresponds.mapAll`, `Corresponds.gather` — computations that agree step by
  step agree.
-/

namespace ClusterEvidence

variable {α β ε : Type} {f : α → Except ε β} {as : List α}

/-- A computation whose value is changed has a value only when it had one. -/
theorem exists_of_map_eq_ok {x : Except ε α} {g : α → β} {b : β} (h : x.map g = .ok b) :
    ∃ a, x = .ok a ∧ g a = b := by
  cases x with
  | error e => cases h
  | ok a =>
      cases h
      exact ⟨a, rfl, rfl⟩

/-- Two computations one after the other have a value when both have one. -/
theorem bind_eq_ok_iff {x : Except ε α} {b : β} :
    (x >>= f) = .ok b ↔ ∃ a, x = .ok a ∧ f a = .ok b := by
  cases x with
  | error e => exact ⟨nofun, fun ⟨_, h, _⟩ => nomatch h⟩
  | ok a => exact ⟨fun h => ⟨a, rfl, h⟩, fun ⟨_, rfl, h⟩ => h⟩

/-- Changing the fault of a computation changes those of its parts. -/
theorem mapError_bind {ε' : Type} (t : ε → ε') (x : Except ε α) (f : α → Except ε β) :
    (x >>= f).mapError t = x.mapError t >>= fun a => (f a).mapError t := by
  cases x <;> rfl

theorem mapError_map {ε' : Type} (t : ε → ε') (x : Except ε α) (g : α → β) :
    (x.map g).mapError t = (x.mapError t).map g := by
  cases x <;> rfl

theorem mapError_mapAll {ε' : Type} (t : ε → ε') (f : α → Except ε β) (as : List α) :
    (mapAll f as).mapError t = mapAll (fun a => (f a).mapError t) as := by
  induction as with
  | nil => rfl
  | cons a as ih =>
      rw [mapAll, mapAll, mapError_bind]
      apply bind_congr
      intro first
      rw [mapError_bind, ih]
      rfl

theorem mapAll_map {γ : Type} (f : β → Except ε γ) (g : α → β) (as : List α) :
    mapAll f (as.map g) = mapAll (fun a => f (g a)) as := by
  induction as with
  | nil => rfl
  | cons a as ih => rw [List.map_cons, mapAll, mapAll, ih]

/-- The values of a pass are those of the members. -/
theorem mapAll_eq_ok {value : α → β} (h : ∀ a ∈ as, f a = .ok (value a)) :
    mapAll f as = .ok (as.map value) := by
  induction as with
  | nil => rfl
  | cons a as ih =>
      have hfirst := h a List.mem_cons_self
      have hothers := ih fun b hb => h b (List.mem_cons_of_mem _ hb)
      simp [mapAll, hfirst, hothers, bind, Except.bind]

/-- A pass has the values of all members, or none. -/
theorem mapAll_eq_ok_iff {bs : List β} : mapAll f as = .ok bs ↔ as.map f = bs.map .ok := by
  induction as generalizing bs with
  | nil => cases bs <;> simp [mapAll]
  | cons a as ih =>
      cases hfirst : f a with
      | error e => cases bs <;> simp [mapAll, hfirst, bind, Except.bind]
      | ok value =>
          cases hrest : mapAll f as with
          | error e =>
              have hnone : ∀ others : List β, as.map f ≠ others.map .ok := fun others hothers => by
                rw [ih.2 hothers] at hrest
                cases hrest
              cases bs <;> simp [mapAll, hfirst, hrest, bind, Except.bind, hnone]
          | ok others =>
              cases bs with
              | nil => simp [mapAll, hfirst, hrest, bind, Except.bind]
              | cons b bs => simp [mapAll, hfirst, hrest, bind, Except.bind, ← ih]

/-- Every value of a pass is that of a member. -/
theorem exists_of_mem_mapAll {bs : List β} (h : mapAll f as = .ok bs) {b : β} (hb : b ∈ bs) :
    ∃ a ∈ as, f a = .ok b := by
  have hmem : (.ok b : Except ε β) ∈ bs.map .ok := List.mem_map_of_mem hb
  rw [← mapAll_eq_ok_iff.1 h] at hmem
  exact List.mem_map.1 hmem

/-- A second pass over the values of a first one gives what it gives over the members, when it does
so for each of them. -/
theorem exists_mapAll_again {f g : α → Except ε α} {as bs : List α} (h : mapAll f as = .ok bs)
    (hagain : ∀ a b, f a = .ok b → ∃ c, g a = .ok c ∧ g b = .ok c) :
    ∃ cs, mapAll g as = .ok cs ∧ mapAll g bs = .ok cs := by
  induction as generalizing bs with
  | nil =>
      cases h
      exact ⟨[], rfl, rfl⟩
  | cons a as ih =>
      have hvalues := mapAll_eq_ok_iff.1 h
      cases bs with
      | nil => cases hvalues
      | cons b bs =>
          rw [List.map_cons, List.map_cons, List.cons.injEq] at hvalues
          obtain ⟨c, hfirst, hsecond⟩ := hagain a b hvalues.1
          obtain ⟨cs, hrest, hrest'⟩ := ih (mapAll_eq_ok_iff.2 hvalues.2)
          refine ⟨c :: cs, ?_, ?_⟩
          · rw [mapAll, hfirst, hrest]
            rfl
          · rw [mapAll, hsecond, hrest']
            rfl

theorem gather_map {γ : Type} (f : β → Except ε (List γ)) (g : α → β) (as : List α) :
    gather f (as.map g) = gather (fun a => f (g a)) as := by
  induction as with
  | nil => rfl
  | cons a as ih => rw [List.map_cons, gather, gather, ih]

/-- Gathering goes through the list once and puts the values in a row. -/
private theorem gather_eq_map_mapAll (f : α → Except ε (List β)) (as : List α) :
    gather f as = (mapAll f as).map List.flatten := by
  induction as with
  | nil => rfl
  | cons a as ih =>
      rw [gather, mapAll, ih]
      cases f a <;> cases mapAll f as <;> rfl

/-- A pass gathers the values of all members, one after another, or none. -/
theorem gather_eq_ok_iff {f : α → Except ε (List β)} {bs : List β} :
    gather f as = .ok bs ↔
      ∃ parts : List (List β), as.map f = parts.map .ok ∧ bs = parts.flatten := by
  rw [gather_eq_map_mapAll]
  constructor
  · intro h
    cases hparts : mapAll f as with
    | error e => simp [hparts, Except.map] at h
    | ok parts =>
        rw [hparts, Except.map, Except.ok.injEq] at h
        exact ⟨parts, mapAll_eq_ok_iff.1 hparts, h.symm⟩
  · rintro ⟨parts, hparts, rfl⟩
    rw [mapAll_eq_ok_iff.2 hparts, Except.map]

/-- Every value that is gathered comes from a member. -/
theorem exists_of_mem_gather {f : α → Except ε (List β)} {bs : List β} (h : gather f as = .ok bs)
    {b : β} (hb : b ∈ bs) : ∃ a ∈ as, ∃ part, f a = .ok part ∧ b ∈ part := by
  obtain ⟨parts, hparts, rfl⟩ := gather_eq_ok_iff.1 h
  obtain ⟨part, hpart, hb⟩ := List.mem_flatten.1 hb
  obtain ⟨a, ha, hvalue⟩ := exists_of_mem_mapAll (mapAll_eq_ok_iff.2 hparts) hpart
  exact ⟨a, ha, part, hvalue, hb⟩

/-- A pass over one member is what the member gives. -/
theorem gather_singleton (f : α → Except ε (List β)) (a : α) :
    gather f [a] = f a := by
  rw [gather, gather]
  show Except.bind (f a) (fun first => .ok (first ++ [])) = f a
  cases f a <;> simp [Except.bind]

/-- A pass that fails at no member and changes nothing. -/
theorem gather_pure (as : List α) :
    gather (fun a => (.ok [a] : Except ε (List α))) as = .ok as := by
  induction as with
  | nil => rfl
  | cons a as ih =>
      rw [gather, ih]
      rfl

/-- Passing on the values of a computation one by one changes nothing. -/
theorem bind_gather_pure (x : Except ε (List α)) : (x >>= gather fun a => .ok [a]) = x := by
  cases x with
  | error e => rfl
  | ok as => exact gather_pure as

/-- A pass that fails does so at the first member that has no value. -/
theorem exists_of_mapAll_eq_error {e : ε} (h : mapAll f as = .error e) :
    ∃ front a rest, as = front ++ a :: rest ∧ (∀ b ∈ front, ∃ value, f b = .ok value) ∧
      f a = .error e := by
  induction as with
  | nil => cases h
  | cons a as ih =>
      cases hfirst : f a with
      | error found =>
          have hsame : found = e := by simpa [mapAll, hfirst, bind, Except.bind] using h
          exact ⟨[], a, as, rfl, by simp, hsame ▸ hfirst⟩
      | ok value =>
          have hrest : mapAll f as = .error e := by
            cases hpass : mapAll f as with
            | error found => simpa [mapAll, hfirst, hpass, bind, Except.bind] using h
            | ok values => simp [mapAll, hfirst, hpass, bind, Except.bind] at h
          obtain ⟨front, b, rest, rfl, hfront, hb⟩ := ih hrest
          refine ⟨a :: front, b, rest, rfl, fun c hc => ?_, hb⟩
          rcases List.mem_cons.1 hc with rfl | hc
          · exact ⟨value, hfirst⟩
          · exact hfront c hc

/-- A pass fails with the first member that has no value. -/
theorem mapAll_eq_error_iff {e : ε} :
    mapAll f as = .error e ↔ ∃ front a rest, as = front ++ a :: rest ∧
      (∀ b ∈ front, ∃ value, f b = .ok value) ∧ f a = .error e := by
  refine ⟨exists_of_mapAll_eq_error, ?_⟩
  rintro ⟨front, a, rest, rfl, hfront, ha⟩
  induction front with
  | nil =>
      rw [List.nil_append, mapAll, ha]
      rfl
  | cons b front ih =>
      obtain ⟨value, hvalue⟩ := hfront b List.mem_cons_self
      rw [List.cons_append, mapAll, hvalue, ih fun c hc => hfront c (List.mem_cons_of_mem _ hc)]
      rfl

/-- A gathering pass fails with the first member that has no values. -/
theorem gather_eq_error_iff {f : α → Except ε (List β)} {e : ε} :
    gather f as = .error e ↔ ∃ front a rest, as = front ++ a :: rest ∧
      (∀ b ∈ front, ∃ part, f b = .ok part) ∧ f a = .error e := by
  rw [gather_eq_map_mapAll, ← mapAll_eq_error_iff]
  cases mapAll f as <;> simp [Except.map]

/-- A gathering pass ends when every member has values. -/
theorem exists_gather_eq_ok_iff {f : α → Except ε (List β)} :
    (∃ bs, gather f as = .ok bs) ↔ ∀ a ∈ as, ∃ part, f a = .ok part := by
  constructor
  · rintro ⟨bs, hbs⟩ a ha
    obtain ⟨parts, hparts, _⟩ := gather_eq_ok_iff.1 hbs
    have hmem : f a ∈ parts.map Except.ok := hparts ▸ List.mem_map_of_mem ha
    obtain ⟨part, _, hpart⟩ := List.mem_map.1 hmem
    exact ⟨part, hpart.symm⟩
  · intro h
    cases hpass : gather f as with
    | ok bs => exact ⟨bs, rfl⟩
    | error e =>
        obtain ⟨front, a, rest, rfl, _, ha⟩ := gather_eq_error_iff.1 hpass
        obtain ⟨part, hpart⟩ := h a (by simp)
        rw [ha] at hpart
        cases hpart

/-- A gathering pass fails when some member has no values. -/
theorem exists_gather_eq_error_iff {f : α → Except ε (List β)} :
    (∃ e, gather f as = .error e) ↔ ∃ a ∈ as, ∃ e, f a = .error e := by
  constructor
  · rintro ⟨e, he⟩
    obtain ⟨front, a, rest, rfl, _, ha⟩ := gather_eq_error_iff.1 he
    exact ⟨a, by simp, e, ha⟩
  · rintro ⟨a, ha, e, he⟩
    cases hpass : gather f as with
    | error found => exact ⟨found, rfl⟩
    | ok bs =>
        obtain ⟨part, hpart⟩ := exists_gather_eq_ok_iff.1 ⟨bs, hpass⟩ a ha
        rw [he] at hpart
        cases hpart

/-- Every member has a value, or the pass fails with the first that has none. -/
theorem exists_of_forall_or_first (f : α → Except ε β) (as : List α) :
    (∀ a ∈ as, ∃ value, f a = .ok value) ∨
      ∃ front a rest e, as = front ++ a :: rest ∧ (∀ b ∈ front, ∃ value, f b = .ok value) ∧
        f a = .error e ∧ mapAll f as = .error e := by
  cases hpass : mapAll f as with
  | error e =>
      obtain ⟨front, a, rest, heq, hfront, ha⟩ := exists_of_mapAll_eq_error hpass
      exact .inr ⟨front, a, rest, e, heq, hfront, ha, rfl⟩
  | ok values =>
      refine .inl fun a ha => ?_
      have hmem : f a ∈ values.map Except.ok := mapAll_eq_ok_iff.1 hpass ▸ List.mem_map_of_mem ha
      obtain ⟨value, _, hvalue⟩ := List.mem_map.1 hmem
      exact ⟨value, hvalue.symm⟩

/-- A fold that fails goes through up to a member at which it fails. -/
theorem exists_of_foldlM_eq_error {step : β → α → Except ε β} {start : β} {e : ε}
    (h : as.foldlM step start = .error e) :
    ∃ front a rest state, as = front ++ a :: rest ∧ front.foldlM step start = .ok state ∧
      step state a = .error e := by
  induction as generalizing start with
  | nil => cases h
  | cons a as ih =>
      rw [List.foldlM_cons] at h
      cases hstep : step start a with
      | error found =>
          rw [hstep] at h
          exact ⟨[], a, as, start, rfl, rfl, hstep.trans h⟩
      | ok next =>
          rw [hstep] at h
          obtain ⟨front, b, rest, state, rfl, hfront, hb⟩ := ih h
          refine ⟨a :: front, b, rest, state, rfl, ?_, hb⟩
          rw [List.foldlM_cons, hstep]
          exact hfront

/-- What holds of the members passed so far and the state behind them holds of all members and the
last state. -/
theorem foldlM_preserves {step : β → α → Except ε β} {P : List α → β → Prop}
    (hstep : ∀ seen state a next, P seen state → step state a = .ok next → P (seen ++ [a]) next)
    {seen : List α} {state last : β} (h : P seen state) (hrun : as.foldlM step state = .ok last) :
    P (seen ++ as) last := by
  induction as generalizing seen state with
  | nil =>
      cases hrun
      rw [List.append_nil]
      exact h
  | cons a as ih =>
      rw [List.foldlM_cons] at hrun
      cases hnext : step state a with
      | error e => simp [hnext, bind, Except.bind] at hrun
      | ok next =>
          rw [hnext] at hrun
          have hrest := ih (hstep seen state a next h hnext) hrun
          rwa [List.append_assoc, List.singleton_append] at hrest

/-! ## The same result

A pass ends with the failure that it meets first. Passes that go through the same work in another
order may therefore fail differently, but they fail together, and where they do not they give the
same. -/

/-- Both computations give the same, or both fail. -/
def SameResult (x y : Except ε α) : Prop := ∀ a, x = .ok a ↔ y = .ok a

namespace SameResult

variable {γ : Type} {x y z : Except ε α}

theorem refl (x : Except ε α) : SameResult x x := fun _ => Iff.rfl

theorem symm (h : SameResult x y) : SameResult y x := fun a => (h a).symm

theorem trans (hxy : SameResult x y) (hyz : SameResult y z) : SameResult x z :=
  fun a => (hxy a).trans (hyz a)

/-- One of them fails exactly when the other does. -/
theorem fails_iff (h : SameResult x y) : (∃ e, x = .error e) ↔ ∃ e, y = .error e := by
  cases x with
  | ok a => simp [(h a).1 rfl]
  | error e =>
      cases y with
      | ok a => simp [(h a).2 rfl]
      | error e' => simp

theorem bind_congr {f g : α → Except ε β} (h : SameResult x y) (hfg : ∀ a, SameResult (f a) (g a)) :
    SameResult (x >>= f) (y >>= g) := by
  intro b
  show Except.bind x f = .ok b ↔ Except.bind y g = .ok b
  cases x with
  | ok a =>
      rw [(h a).1 rfl]
      exact hfg a b
  | error e =>
      cases y with
      | ok a => exact absurd ((h a).2 rfl) (by simp)
      | error e' => simp [Except.bind]

theorem gather_congr {f g : α → Except ε (List β)} (h : ∀ a, SameResult (f a) (g a)) (as : List α) :
    SameResult (gather f as) (gather g as) := by
  induction as with
  | nil => exact refl _
  | cons a as ih =>
      rw [gather, gather]
      apply bind_congr (h a)
      intro first
      exact ih.bind_congr fun others => refl _

/-- Which of two computations comes first does not matter to a third one that takes both. -/
private theorem bind_comm (x : Except ε α) (y : Except ε β) (f : α → β → Except ε γ) :
    SameResult (x >>= fun a => y >>= fun b => f a b) (y >>= fun b => x >>= fun a => f a b) := by
  intro c
  cases x <;> cases y <;> simp [Bind.bind, Except.bind]

/-- Two passes one after the other give what the second gives when it is made for each member of
the first at once. -/
theorem gather_bind (f : α → Except ε (List β)) (g : β → Except ε (List γ)) (as : List α) :
    SameResult (gather f as >>= gather g)
      (gather (fun a => f a >>= gather g) as) := by
  induction as with
  | nil => exact refl _
  | cons a as ih =>
      rw [gather, gather, bind_assoc, bind_assoc]
      apply bind_congr (refl (f a))
      intro first
      -- The second pass over `first` is moved in front of the first pass over the rest.
      have hmove : SameResult
          (gather f as >>= fun others => gather g (first ++ others))
          (gather g first >>= fun results =>
            (gather f as >>= gather g) >>= fun others =>
              .ok (results ++ others)) := by
        simp only [gather_append, bind_assoc]
        exact bind_comm _ _ _
      rw [bind_assoc]
      apply trans hmove
      apply bind_congr (refl _)
      intro results
      exact bind_congr ih fun others => refl _

end SameResult

/-! ## Results that belong together -/

/-- Both computations have values that belong together, or both fail with faults that do. -/
inductive Corresponds {ε' : Type} (R : α → β → Prop) (E : ε → ε' → Prop) :
    Except ε α → Except ε' β → Prop where
  | ok {a : α} {b : β} (h : R a b) : Corresponds R E (.ok a) (.ok b)
  | error {e : ε} {e' : ε'} (h : E e e') : Corresponds R E (.error e) (.error e')

namespace Corresponds

variable {ε' γ δ : Type} {R : α → β → Prop} {S : γ → δ → Prop} {E F : ε → ε' → Prop}
  {x : Except ε α} {y : Except ε' β}

theorem bind {f : α → Except ε γ} {g : β → Except ε' δ} (h : Corresponds R E x y)
    (hfg : ∀ a b, R a b → Corresponds S E (f a) (g b)) : Corresponds S E (x >>= f) (y >>= g) := by
  cases h with
  | ok h => exact hfg _ _ h
  | error h => exact .error h

theorem map {f : α → γ} {g : β → δ} (h : Corresponds R E x y)
    (hfg : ∀ a b, R a b → S (f a) (g b)) : Corresponds S E (x.map f) (y.map g) := by
  cases h with
  | ok h => exact .ok (hfg _ _ h)
  | error h => exact .error h

theorem imp_error (h : Corresponds R E x y) (hEF : ∀ e e', E e e' → F e e') :
    Corresponds R F x y := by
  cases h with
  | ok h => exact .ok h
  | error h => exact .error (hEF _ _ h)

/-- Two passes that agree at every member agree. -/
theorem mapAll {f : α → Except ε β} {g : α → Except ε' β} {as : List α}
    (h : ∀ a ∈ as, Corresponds Eq E (f a) (g a)) :
    Corresponds Eq E (mapAll f as) (ClusterEvidence.mapAll g as) := by
  induction as with
  | nil => exact .ok rfl
  | cons a as ih =>
      rw [ClusterEvidence.mapAll, ClusterEvidence.mapAll]
      apply bind (h a List.mem_cons_self)
      rintro first _ rfl
      apply bind (ih fun b hb => h b (List.mem_cons_of_mem _ hb))
      rintro others _ rfl
      exact .ok rfl

/-- Two gathering passes that fail at the same members fail alike. -/
theorem gather {f : α → Except ε (List γ)} {g : α → Except ε' (List δ)} {as : List α}
    (h : ∀ a ∈ as, Corresponds (fun _ _ => True) E (f a) (g a)) :
    Corresponds (fun _ _ => True) E (gather f as) (ClusterEvidence.gather g as) := by
  induction as with
  | nil => exact .ok trivial
  | cons a as ih =>
      rw [ClusterEvidence.gather, ClusterEvidence.gather]
      apply bind (h a List.mem_cons_self)
      intro _ _ _
      apply bind (ih fun b hb => h b (List.mem_cons_of_mem _ hb))
      intro _ _ _
      exact .ok trivial

/-- Both fail with the same fault, or none does. -/
theorem eq_error_iff {y : Except ε β} (h : Corresponds R Eq x y) (e : ε) :
    x = .error e ↔ y = .error e := by
  cases h with
  | ok h => simp
  | error h => simp [h]

end Corresponds

end ClusterEvidence
