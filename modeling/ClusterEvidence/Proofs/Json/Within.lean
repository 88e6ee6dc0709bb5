import ClusterEvidence.Proofs.Json.Meet
import ClusterEvidence.Proofs.Json.Reader

/-!
# Values within bounds

What was read is not nested deeper than the reader goes, and its integers are those of sixty-four
bits. The second part holds of the number of every token already, so it is carried through the pass
over the tokens (`Fits.step?`) to the tree and from there to the value.

## Main results

* `within_of_read` — a value that was read is within the bounds.
* `within_of_meet?` — a meet is within the bounds of the first value.
-/

namespace ClusterEvidence.Json

/-! ## Bounds -/

mutual

/-- A value is nested no deeper than there is room, and its numbers have a property. -/
def Within (p : Number → Prop) (room : Nat) : Json → Prop
  | number n => p n
  | array items => 0 < room ∧ WithinItems p (room - 1) items
  | object members => 0 < room ∧ WithinMembers p (room - 1) members
  | _ => True

/-- Every item is within the bounds. -/
def WithinItems (p : Number → Prop) (room : Nat) : List Json → Prop
  | [] => True
  | item :: items => Within p room item ∧ WithinItems p room items

/-- Every member is within the bounds. -/
def WithinMembers (p : Number → Prop) (room : Nat) : List (String × Json) → Prop
  | [] => True
  | (_, value) :: members => Within p room value ∧ WithinMembers p room members

end

/-- An integer of sixty-four bits, unsigned or signed. -/
def InRange (n : Int) : Prop := -(Nat.pow 2 63 : Int) ≤ n ∧ n < (UInt64.size : Int)

/-- Integers are of sixty-four bits. -/
def Number.Fits : Number → Prop
  | .integer n => InRange n
  | .double _ => True

section
variable {p q r : Number → Prop}

mutual

/-- Of numbers with two properties something else may be known. -/
theorem Within.imp (h : ∀ n, p n → q n → r n) {room : Nat} : ∀ {value : Json},
    Within p room value → Within q room value → Within r room value
  | null, _, _ => trivial
  | bool _, _, _ => trivial
  | number n, hp, hq => h n hp hq
  | string _, _, _ => trivial
  | array _, hp, hq => ⟨hp.1, WithinItems.imp h hp.2 hq.2⟩
  | object _, hp, hq => ⟨hp.1, WithinMembers.imp h hp.2 hq.2⟩

theorem WithinItems.imp (h : ∀ n, p n → q n → r n) {room : Nat} : ∀ {items : List Json},
    WithinItems p room items → WithinItems q room items → WithinItems r room items
  | [], _, _ => trivial
  | _ :: _, hp, hq => ⟨hp.1.imp h hq.1, WithinItems.imp h hp.2 hq.2⟩

theorem WithinMembers.imp (h : ∀ n, p n → q n → r n) {room : Nat} :
    ∀ {members : List (String × Json)},
      WithinMembers p room members → WithinMembers q room members → WithinMembers r room members
  | [], _, _ => trivial
  | (_, _) :: _, hp, hq => ⟨hp.1.imp h hq.1, WithinMembers.imp h hp.2 hq.2⟩

end

mutual

/-- A value that has room has more room. -/
theorem Within.mono {room more : Nat} (h : room ≤ more) : ∀ {value : Json},
    Within p room value → Within p more value
  | null, _ => trivial
  | bool _, _ => trivial
  | number _, hp => hp
  | string _, _ => trivial
  | array _, hp => ⟨by have hroom := hp.1; omega, WithinItems.mono (by omega) hp.2⟩
  | object _, hp => ⟨by have hroom := hp.1; omega, WithinMembers.mono (by omega) hp.2⟩

theorem WithinItems.mono {room more : Nat} (h : room ≤ more) : ∀ {items : List Json},
    WithinItems p room items → WithinItems p more items
  | [], _ => trivial
  | _ :: _, hp => ⟨hp.1.mono h, WithinItems.mono h hp.2⟩

theorem WithinMembers.mono {room more : Nat} (h : room ≤ more) :
    ∀ {members : List (String × Json)}, WithinMembers p room members → WithinMembers p more members
  | [], _ => trivial
  | (_, _) :: _, hp => ⟨hp.1.mono h, WithinMembers.mono h hp.2⟩

end

mutual

/-- Equal values are nested alike, and what equal numbers share holds in both. -/
theorem Within.of_equal (h : ∀ m n, Number.equal m n = true → p m → p n) {room : Nat} :
    ∀ {a b : Json}, equal a b = true → Within p room a → Within p room b
  | null, b, heq, _ => by
      cases b <;> simp [equal] at heq
      trivial
  | bool _, b, heq, _ => by
      cases b <;> simp [equal] at heq
      trivial
  | string _, b, heq, _ => by
      cases b <;> simp [equal] at heq
      trivial
  | number m, b, heq, hp => by
      cases b <;> simp [equal] at heq
      exact h m _ heq hp
  | array items, b, heq, hp => by
      cases b <;> simp [equal] at heq
      exact ⟨hp.1, WithinItems.of_equal h heq hp.2⟩
  | object members, b, heq, hp => by
      cases b <;> simp [equal] at heq
      exact ⟨hp.1, WithinMembers.of_equal h heq hp.2⟩

theorem WithinItems.of_equal (h : ∀ m n, Number.equal m n = true → p m → p n) {room : Nat} :
    ∀ {as bs : List Json}, equalItems as bs = true → WithinItems p room as → WithinItems p room bs
  | [], bs, heq, _ => by
      cases bs <;> simp [equalItems] at heq
      trivial
  | a :: as, bs, heq, hp => by
      cases bs <;> simp [equalItems] at heq
      exact ⟨Within.of_equal h heq.1 hp.1, WithinItems.of_equal h heq.2 hp.2⟩

theorem WithinMembers.of_equal (h : ∀ m n, Number.equal m n = true → p m → p n) {room : Nat} :
    ∀ {as bs : List (String × Json)},
      equalMembers as bs = true → WithinMembers p room as → WithinMembers p room bs
  | [], bs, heq, _ => by
      cases bs <;> simp [equalMembers] at heq
      trivial
  | (_, a) :: as, bs, heq, hp => by
      cases bs <;> simp [equalMembers] at heq
      exact ⟨Within.of_equal h heq.1.2 hp.1, WithinMembers.of_equal h heq.2 hp.2⟩

end

theorem withinItems_iff {room : Nat} {items : List Json} :
    WithinItems p room items ↔ ∀ item ∈ items, Within p room item := by
  induction items with
  | nil => simp [WithinItems]
  | cons item items ih => simp [WithinItems, ih]

theorem withinMembers_iff {room : Nat} {members : List (String × Json)} :
    WithinMembers p room members ↔ ∀ member ∈ members, Within p room member.2 := by
  induction members with
  | nil => simp [WithinMembers]
  | cons member members ih => simp [WithinMembers, ih]

/-- A member that is found is within the bounds. -/
theorem WithinMembers.get? {room : Nat} {members : List (String × Json)}
    (h : WithinMembers p room members) {key : String} {value : Json}
    (hget : Entries.get? key members = some value) : Within p room value :=
  withinMembers_iff.1 h _ (Entries.mem_of_get? hget)

/-- The meet of a value that is no object is that value. -/
private theorem eq_of_meet?_leaf {a b m : Json} (ha : a.isObject = false) (h : meet? a b = some m) :
    m = a := by
  rw [meet?_of_leaf (by simp [ha])] at h
  split at h
  · cases h
    rfl
  · cases h

mutual

/-- A meet is within the bounds of the first value. -/
theorem within_of_meet? {room : Nat} : ∀ {a b m : Json},
    Within p room a → meet? a b = some m → Within p room m
  | null, _, _, ha, h => eq_of_meet?_leaf rfl h ▸ ha
  | bool _, _, _, ha, h => eq_of_meet?_leaf rfl h ▸ ha
  | number _, _, _, ha, h => eq_of_meet?_leaf rfl h ▸ ha
  | string _, _, _, ha, h => eq_of_meet?_leaf rfl h ▸ ha
  | array _, _, _, ha, h => eq_of_meet?_leaf rfl h ▸ ha
  | object a, b, _, ha, h => by
      cases b with
      | object b =>
          rw [meet?, Option.some.injEq] at h
          subst h
          exact ⟨ha.1, withinMembers_meetMembers b ha.2⟩
      | _ => simp [meet?, equal] at h

theorem withinMembers_meetMembers {room : Nat} : ∀ {a : List (String × Json)}
    (b : List (String × Json)), WithinMembers p room a → WithinMembers p room (meetMembers a b)
  | [], _, _ => trivial
  | (key, left) :: members, b, ⟨hleft, hmembers⟩ => by
      have hrest := withinMembers_meetMembers b hmembers
      rw [meetMembers]
      split
      · exact hrest
      · split
        · exact hrest
        · next hmeet => exact ⟨within_of_meet? hleft hmeet, hrest⟩

end

end

/-! ## The numbers of a text -/

namespace Token

/-- The number of a token fits. -/
def Fits : Token → Prop
  | number (some n) => n.Fits
  | _ => True

/-- A significand stays below the bound that it is kept below. -/
private theorem absorb_lt {start : Nat} (digits : Bytes) (h : start < UInt64.size) :
    (absorb start digits).1 < UInt64.size := by
  induction digits generalizing start with
  | nil => exact h
  | cons b digits ih =>
      rw [absorb]
      simp only
      split
      · exact h
      · next hfits => exact ih (Nat.lt_of_not_le hfits)

/-- The number of a literal fits. -/
private theorem fits_of_numberOf {negative : Bool} {whole : Bytes} {fraction : Option Bytes}
    {exponent : Option Int} {n : Number} (h : numberOf negative whole fraction exponent = some n) :
    n.Fits := by
  have hlt : (absorb 0 whole).1 < UInt64.size := absorb_lt whole (by decide)
  unfold numberOf at h
  simp only at h
  split at h
  · next hinteger =>
      cases h
      simp only [Bool.and_eq_true, Bool.or_eq_true, Bool.not_eq_true',
        decide_eq_true_eq] at hinteger
      have hpow : Nat.pow 2 63 = 9223372036854775808 := rfl
      have hsize : UInt64.size = 18446744073709551616 := rfl
      cases negative with
      | false =>
          simp only [Number.Fits, InRange, Bool.false_eq_true, if_false]
          omega
      | true =>
          have hsmall := hinteger.2.resolve_left (by simp)
          simp only [Number.Fits, InRange, if_true]
          omega
  · rw [Option.map_eq_some_iff] at h
    obtain ⟨x, _, rfl⟩ := h
    trivial

private theorem fits_of_scanNumber {negative : Bool} {bytes left : Bytes} {token : Token}
    (h : scanNumber negative bytes = some (token, left)) : token.Fits := by
  simp only [scanNumber, Option.bind_eq_bind, Option.bind_eq_some_iff, Option.some.injEq,
    Prod.mk.injEq] at h
  obtain ⟨⟨whole, _⟩, _, ⟨fraction, _⟩, _, ⟨exponent, _⟩, _, rfl, _⟩ := h
  cases hnumber : numberOf negative whole fraction exponent with
  | none => trivial
  | some n => exact fits_of_numberOf hnumber

private theorem fits_of_scan {bytes left : Bytes} {token : Token}
    (h : scan bytes = some (token, left)) :
    token.Fits := by
  unfold scan at h
  split at h
  case h_10 =>
    simp only [Option.map_eq_some_iff, Prod.mk.injEq] at h
    obtain ⟨_, _, rfl, _⟩ := h
    trivial
  case h_11 => exact fits_of_scanNumber h
  case h_12 => exact fits_of_scanNumber h
  all_goals
    cases h
    trivial

private theorem fits_of_all? {bytes : Bytes} {tokens : List Token} (h : all? bytes = some tokens) :
    ∀ token ∈ tokens, token.Fits := by
  fun_induction all? bytes generalizing tokens with
  | case1 =>
      cases h
      simp
  | case2 b rest hspace ih => exact ih h
  | case3 => cases h
  | case4 b rest hspace token left hscan ih =>
      rw [Option.map_eq_some_iff] at h
      obtain ⟨others, hothers, rfl⟩ := h
      exact List.forall_mem_cons.2 ⟨fits_of_scan hscan, ih hothers⟩

end Token

namespace Written

mutual

/-- The numbers of a tree fit. -/
def Fits : Written → Prop
  | number (some n) => n.Fits
  | array items => FitsItems items
  | object members => FitsMembers members
  | _ => True

/-- The numbers of all items fit. -/
def FitsItems : List Written → Prop
  | [] => True
  | item :: items => Fits item ∧ FitsItems items

/-- The numbers of all members fit. -/
def FitsMembers : List (Option String × Written) → Prop
  | [] => True
  | (_, member) :: members => Fits member ∧ FitsMembers members

end

private theorem fitsItems_iff {items : List Written} :
    FitsItems items ↔ ∀ item ∈ items, item.Fits := by
  induction items with
  | nil => simp [FitsItems]
  | cons item items ih => rw [FitsItems, ih, List.forall_mem_cons]

private theorem fitsMembers_iff {members : List (Option String × Written)} :
    FitsMembers members ↔ ∀ member ∈ members, member.2.Fits := by
  induction members with
  | nil => simp [FitsMembers]
  | cons member members ih =>
      obtain ⟨key, tree⟩ := member
      rw [FitsMembers, ih, List.forall_mem_cons]

/-- The numbers of what an open array or object holds so far fit. -/
def Frame.Fits : Frame → Prop
  | .array done => FitsItems done
  | .object done _ => FitsMembers done

/-- The numbers of what the demand knows fit. -/
def Demand.Fits : Demand → Prop
  | .key done => FitsMembers done
  | .colon done _ => FitsMembers done
  | .after tree => tree.Fits
  | _ => True

/-- The numbers of a state fit. -/
def State.Fits (state : State) : Prop := (∀ frame ∈ state.frames, frame.Fits) ∧ state.demand.Fits

private theorem fits_of_value? {frames : List Frame} {token : Token} {next : State}
    (hframes : ∀ frame ∈ frames, frame.Fits) (htoken : token.Fits)
    (h : State.value? frames token = some next) : next.Fits := by
  unfold State.value? at h
  split at h
  · cases h
    exact ⟨List.forall_mem_cons.2 ⟨trivial, hframes⟩, trivial⟩
  · cases h
    exact ⟨hframes, trivial⟩
  · rw [Option.map_eq_some_iff] at h
    obtain ⟨tree, htree, rfl⟩ := h
    refine ⟨hframes, ?_⟩
    cases token with
    | number n =>
        cases htree
        cases n <;> exact htoken
    | _ => cases htree <;> trivial

private theorem fits_of_after? {tree : Written} {frames : List Frame} {token : Token} {next : State}
    (hframes : ∀ frame ∈ frames, frame.Fits) (htree : tree.Fits)
    (h : State.after? tree frames token = some next) : next.Fits := by
  unfold State.after? at h
  split at h
  · cases h
    obtain ⟨hdone, hframes⟩ := List.forall_mem_cons.1 hframes
    exact ⟨List.forall_mem_cons.2 ⟨⟨htree, hdone⟩, hframes⟩, trivial⟩
  · next done frames =>
      cases h
      obtain ⟨hdone, hframes⟩ := List.forall_mem_cons.1 hframes
      have hall : FitsItems (tree :: done) := ⟨htree, hdone⟩
      refine ⟨hframes, fitsItems_iff.2 fun item hitem => ?_⟩
      exact fitsItems_iff.1 hall item (List.mem_reverse.1 hitem)
  · cases h
    obtain ⟨hdone, hframes⟩ := List.forall_mem_cons.1 hframes
    exact ⟨hframes, htree, hdone⟩
  · next done key frames =>
      cases h
      obtain ⟨hdone, hframes⟩ := List.forall_mem_cons.1 hframes
      have hall : FitsMembers ((key, tree) :: done) := ⟨htree, hdone⟩
      refine ⟨hframes, fitsMembers_iff.2 fun member hmember => ?_⟩
      exact fitsMembers_iff.1 hall member (List.mem_reverse.1 hmember)
  · cases h

/-- One token whose number fits keeps this. -/
theorem State.Fits.step? {state next : State} {token : Token} (h : state.Fits)
    (htoken : token.Fits) (hstep : state.step? token = some next) : next.Fits := by
  obtain ⟨frames, demand⟩ := state
  obtain ⟨hframes, hdemand⟩ := h
  unfold State.step? at hstep
  split at hstep
  · exact fits_of_value? hframes htoken hstep
  · split at hstep
    · cases hstep
      next heq =>
        simp only at heq
        subst heq
        exact ⟨(List.forall_mem_cons.1 hframes).2, trivial⟩
    · cases hstep
  · exact fits_of_value? hframes htoken hstep
  · next hkey =>
      cases hstep
      simp only at hkey
      subst hkey
      exact ⟨hframes, hdemand⟩
  · cases hstep
    exact ⟨hframes, trivial⟩
  · cases hstep
    exact ⟨hframes, trivial⟩
  · next hcolon =>
      cases hstep
      simp only at hcolon
      subst hcolon
      exact ⟨List.forall_mem_cons.2 ⟨hdemand, hframes⟩, trivial⟩
  · next hafter =>
      simp only at hafter
      subst hafter
      exact fits_of_after? hframes hdemand hstep
  · cases hstep

private theorem State.Fits.foldlM {state last : State} {tokens : List Token} (h : state.Fits)
    (htokens : ∀ token ∈ tokens, token.Fits)
    (hrun : tokens.foldlM State.step? state = some last) : last.Fits := by
  induction tokens generalizing state with
  | nil =>
      cases hrun
      exact h
  | cons token tokens ih =>
      obtain ⟨htoken, htokens⟩ := List.forall_mem_cons.1 htokens
      rw [List.foldlM_cons, Option.bind_eq_bind, Option.bind_eq_some_iff] at hrun
      obtain ⟨next, hstep, hrun⟩ := hrun
      exact ih (h.step? htoken hstep) htokens hrun

end Written

/-! ## Values that were read -/

theorem WithinMembers.insert {p : Number → Prop} {room : Nat} {members : List (String × Json)}
    (h : WithinMembers p room members) (key : String) {value : Json}
    (hvalue : Within p room value) : WithinMembers p room (Entries.insert key value members) := by
  refine withinMembers_iff.2 fun member hmember => ?_
  rcases Entries.key_of_mem_insert hmember with rfl | hold
  · exact hvalue
  · exact withinMembers_iff.1 h member hold

mutual

/-- The value of a tree is within the room there was for it. -/
private theorem within_ofWritten (room : Nat) : ∀ {tree : Written} {value : Json}, tree.Fits →
    ofWritten room tree = .ok value → Within Number.Fits room value
  | .null, _, _, h => by cases h; trivial
  | .bool _, _, _, h => by cases h; trivial
  | .number (some _), _, hfits, h => by cases h; exact hfits
  | .number none, _, _, h => by cases h
  | .string (some _), _, _, h => by cases h; trivial
  | .string none, _, _, h => by cases h
  | .array items, _, hfits, h => by
      cases room with
      | zero => simp [ofWritten] at h
      | succ room =>
          rw [ofWritten] at h
          cases hitems : itemsOfWritten room items with
          | error e => simp [hitems, bind, Except.bind] at h
          | ok values =>
              simp only [hitems, bind, Except.bind, Except.ok.injEq] at h
              subst h
              exact ⟨Nat.succ_pos room, withinItems_itemsOfWritten room hfits hitems⟩
  | .object members, _, hfits, h => by
      cases room with
      | zero => simp [ofWritten] at h
      | succ room =>
          rw [ofWritten] at h
          cases hmembers : membersOfWritten room [] members with
          | error e => simp [hmembers, bind, Except.bind] at h
          | ok values =>
              simp only [hmembers, bind, Except.bind, Except.ok.injEq] at h
              subst h
              have hdone : WithinMembers Number.Fits room [] := trivial
              exact ⟨Nat.succ_pos room, withinMembers_membersOfWritten room hfits hdone hmembers⟩

theorem withinItems_itemsOfWritten (room : Nat) : ∀ {items : List Written} {values : List Json},
    Written.FitsItems items → itemsOfWritten room items = .ok values →
    WithinItems Number.Fits room values
  | [], _, _, h => by cases h; trivial
  | item :: items, _, ⟨hfirst, hrest⟩, h => by
      rw [itemsOfWritten] at h
      cases hitem : ofWritten room item with
      | error e => simp [hitem, bind, Except.bind] at h
      | ok value =>
          cases hitems : itemsOfWritten room items with
          | error e => simp [hitem, hitems, bind, Except.bind] at h
          | ok values =>
              simp only [hitem, hitems, bind, Except.bind, Except.ok.injEq] at h
              subst h
              exact ⟨within_ofWritten room hfirst hitem,
                withinItems_itemsOfWritten room hrest hitems⟩

theorem withinMembers_membersOfWritten (room : Nat) :
    ∀ {members : List (Option String × Written)} {done values : List (String × Json)},
      Written.FitsMembers members → WithinMembers Number.Fits room done →
      membersOfWritten room done members = .ok values → WithinMembers Number.Fits room values
  | [], _, _, _, hdone, h => by cases h; exact hdone
  | (none, _) :: _, _, _, _, _, h => by cases h
  | (some key, member) :: members, _, _, ⟨hfirst, hrest⟩, hdone, h => by
      rw [membersOfWritten] at h
      cases hmember : ofWritten room member with
      | error e => simp [hmember, bind, Except.bind] at h
      | ok value =>
          simp only [hmember, bind, Except.bind] at h
          have hvalue := within_ofWritten room hfirst hmember
          exact withinMembers_membersOfWritten room hrest (hdone.insert key hvalue) h

end

/-- A value that was read is nested no deeper than the reader goes, and its integers are of
sixty-four bits. -/
theorem within_of_read {bytes : Bytes} {value : Json} (h : read bytes = .ok value) :
    Within Number.Fits maxDepth value := by
  obtain ⟨tokens, htokens, tree, htree, hvalue⟩ := exists_tokens_of_read h
  have hall := Token.fits_of_all? (Token.tokenizes_iff.1 htokens)
  have hstart : Written.State.Fits ⟨[], .value⟩ := ⟨by simp, trivial⟩
  have hend := hstart.foldlM hall (Written.ofTokens?_eq_some_iff.1 htree)
  exact within_ofWritten maxDepth hend.2 hvalue

end ClusterEvidence.Json
