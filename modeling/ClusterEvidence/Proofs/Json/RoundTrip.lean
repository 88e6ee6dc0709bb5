import ClusterEvidence.Proofs.Json.Literal
import ClusterEvidence.Proofs.Json.Reader

/-!
# Compact text is read back

The compact text of a value is a row of tokens that leads the pass over them from where a value may
stand to the place behind it (`Reads`). The text of an array or object is made of those of its
parts, so values, items and members are treated together (`exists_reads`).

Integers of sixty-four bits are read back as they are. A double is printed with the fewest digits
that determine it, but the reader rounds more than once and may end at a neighbour of it; that it
does not is asked of every double of a value (`DoublesReadBack`).

## Main results

* `read_compactBytes`, `read_compactBytes_again` — the compact text of a value is read as an equal
  value, which has the same text.
-/

namespace ClusterEvidence.Json

open Text (encode)
open Token (Tokenizes isStop)

/-! ## Numbers -/

/-- The text of a number is read as an equal number. -/
def Number.ReadsBack (n : Number) : Prop :=
  ∃ m, read (encode n.text) = .ok (.number m) ∧ n.equal m = true

/-- An integer of sixty-four bits is read as itself. -/
private theorem Number.readsBack_integer {n : Int} (h : InRange n) :
    (Number.integer n).ReadsBack := by
  refine ⟨.integer n, ?_, Number.equal_self _⟩
  exact read_of_tokenizes (tokenizes_integer h) rfl rfl

/-- Equal doubles have one mantissa and one exponent, and zeros may differ in their sign. -/
private theorem Binary64.eq_or_zero_of_equal {x y : Binary64} (h : x.equal y = true) :
    x = y ∨ x.mantissa = 0 ∧ y.mantissa = 0 ∧ x.exponent = y.exponent := by
  simp only [Binary64.equal, Bool.and_eq_true, Bool.or_eq_true, beq_iff_eq] at h
  obtain ⟨⟨hmantissa, hexponent⟩, hsign | hzero⟩ := h
  · left
    cases x
    cases y
    simp_all
  · exact .inr ⟨hzero, hmantissa ▸ hzero, hexponent⟩

/-- The text of a zero is read as the zero of the reader. -/
private theorem read_zero {x : Binary64} (h : x.mantissa = 0) :
    read (encode (Number.double x).text) = .ok (.number (.double ⟨x.negative, 0, -1074⟩)) := by
  obtain ⟨negative, mantissa, exponent⟩ := x
  have hzero : mantissa = 0 := h
  subst hzero
  have hscan : Token.scan (encode (Number.double ⟨negative, 0, exponent⟩).text) =
      some (.number (some (.double ⟨negative, 0, -1074⟩)), []) := by
    cases negative with
    | false =>
        change Token.scan (encode "0.0".toList) = _
        decide +kernel
    | true =>
        change Token.scan (encode "-0.0".toList) = _
        decide +kernel
  exact read_of_tokenizes (.of_scan hscan) rfl rfl

/-- A number that is read back is printed again as it was. -/
private theorem Number.ReadsBack.exists_text {n : Number} (h : n.ReadsBack) :
    ∃ m, read (encode n.text) = .ok (.number m) ∧ n.equal m = true ∧ m.text = n.text := by
  obtain ⟨m, hread, hequal⟩ := h
  refine ⟨m, hread, hequal, ?_⟩
  cases n with
  | integer i =>
      cases m with
      | integer j =>
          have heq : i = j := by simpa [Number.equal] using hequal
          rw [heq]
      | double y => cases hequal
  | double x =>
      cases m with
      | integer j => cases hequal
      | double y =>
          rcases Binary64.eq_or_zero_of_equal hequal with rfl | ⟨hx, _, _⟩
          · rfl
          · rw [read_zero hx, Except.ok.injEq, Json.number.injEq, Number.double.injEq] at hread
            subst hread
            simp [Number.text, Binary64.text, hx]

/-- Of two equal numbers both are read back or none. -/
private theorem Number.ReadsBack.of_equal {m n : Number} (h : m.equal n = true) (hm : m.ReadsBack) :
    n.ReadsBack := by
  cases m with
  | integer i =>
      cases n with
      | integer j =>
          have heq : i = j := by simpa [Number.equal] using h
          exact heq ▸ hm
      | double y => cases h
  | double x =>
      cases n with
      | integer j => cases h
      | double y =>
          rcases Binary64.eq_or_zero_of_equal h with rfl | ⟨hx, hy, hexponent⟩
          · exact hm
          · obtain ⟨found, hread, hequal⟩ := hm
            rw [read_zero hx, Except.ok.injEq, Json.number.injEq] at hread
            subst hread
            have hleast : x.exponent = -1074 := by
              simp only [Number.equal, Binary64.equal, Bool.and_eq_true, beq_iff_eq] at hequal
              exact hequal.1.2
            refine ⟨_, read_zero hy, ?_⟩
            simp [Number.equal, Binary64.equal, hy, ← hexponent, hleast]

/-- Every double of a value is read back as an equal one. -/
def DoublesReadBack (value : Json) : Prop :=
  Within (fun n => ∀ x, n = .double x → n.ReadsBack) maxDepth value

/-- The numbers of a value are read back when the doubles are and the integers fit. -/
theorem DoublesReadBack.within {value : Json} (h : DoublesReadBack value)
    (hfits : Within Number.Fits maxDepth value) : Within Number.ReadsBack maxDepth value := by
  refine Within.imp (fun n hfit hdouble => ?_) hfits h
  cases n with
  | integer n => exact Number.readsBack_integer hfit
  | double x => exact hdouble x rfl

/-- The doubles of equal values are read back alike. -/
theorem DoublesReadBack.of_equal {a b : Json} (h : DoublesReadBack a) (heq : equal a b = true) :
    DoublesReadBack b := by
  refine Within.of_equal (fun m n hnumbers hm y hy => ?_) heq h
  subst hy
  cases m with
  | integer i => cases hnumbers
  | double x => exact (hm x rfl).of_equal hnumbers

/-! ## The tokens of a value -/

namespace Written

/-- The tokens of a text lead from where a value may stand to the place behind a tree. -/
def Reads (bytes : Bytes) (tree : Written) : Prop :=
  ∃ tokens, Tokenizes bytes tokens ∧ ∀ frames demand, demand = .value ∨ demand = .valueOrClose →
    tokens.foldlM State.step? ⟨frames, demand⟩ = some ⟨frames, .after tree⟩

/-- The tokens of items and the bracket behind them lead from where an item may stand to the place
behind the array. -/
def ReadsItems (bytes : Bytes) (trees : List Written) : Prop :=
  ∃ tokens, Tokenizes bytes tokens ∧
    ∀ frames done demand, demand = .value ∨ demand = .valueOrClose →
      tokens.foldlM State.step? ⟨.array done :: frames, demand⟩ =
        some ⟨frames, .after (.array (done.reverse ++ trees))⟩

/-- The tokens of members and the bracket behind them lead from where a key may stand to the place
behind the object. -/
def ReadsMembers (bytes : Bytes) (trees : List (Option String × Written)) : Prop :=
  ∃ tokens, Tokenizes bytes tokens ∧
    ∀ frames done demand, demand = .key done ∨ demand = .keyOrClose ∧ done = [] →
      tokens.foldlM State.step? ⟨frames, demand⟩ =
        some ⟨frames, .after (.object (done.reverse ++ trees))⟩

private theorem reads_scalar {bytes : Bytes} {token : Token} {tree : Written}
    (h : Tokenizes bytes [token]) (htree : scalar? token = some tree) : Reads bytes tree := by
  refine ⟨[token], h, fun frames demand hdemand => ?_⟩
  rcases hdemand with rfl | rfl <;> cases token <;> cases htree <;> rfl

/-- A bracket, a comma or a colon in front of a text is a token. -/
theorem tokenizes_mark {b : UInt8} {token : Token} {rest : Bytes} {tokens : List Token}
    (hb : Token.isPlain b = true) (hscan : ∀ other, Token.scan (b :: other) = some (token, other))
    (h : Tokenizes rest tokens) : Tokenizes (b :: rest) (token :: tokens) := by
  have hchunk : Token.Chunk [b] := .of_all (by simp [hb])
  exact .token hchunk (fun other _ => hscan other) h

private theorem readsItems_one {bytes : Bytes} {tree : Written} (h : Reads bytes tree) :
    ReadsItems (bytes ++ [0x5D]) [tree] := by
  obtain ⟨tokens, htokens, hrun⟩ := h
  have hclose : Tokenizes [0x5D] [.closeArray] :=
    tokenizes_mark (by decide) (fun _ => rfl) .nil
  refine ⟨tokens ++ [.closeArray], htokens.append hclose (by simp [isStop]), ?_⟩
  intro frames done demand hdemand
  rw [List.foldlM_append, hrun _ demand hdemand]
  simp [State.step?, State.after?]

private theorem readsItems_cons {bytes rest : Bytes} {tree : Written} {trees : List Written}
    (h : Reads bytes tree) (hrest : ReadsItems rest trees) :
    ReadsItems (bytes ++ 0x2C :: rest) (tree :: trees) := by
  obtain ⟨tokens, htokens, hrun⟩ := h
  obtain ⟨others, hothers, hrunRest⟩ := hrest
  have hcomma : Tokenizes (0x2C :: rest) (.comma :: others) :=
    tokenizes_mark (by decide) (fun _ => rfl) hothers
  refine ⟨tokens ++ .comma :: others, htokens.append hcomma (by simp [isStop]), ?_⟩
  intro frames done demand hdemand
  rw [List.foldlM_append, hrun _ demand hdemand]
  have hlast := hrunRest frames (tree :: done) .value (.inl rfl)
  simpa [State.step?, State.after?, List.foldlM_cons] using hlast

private theorem reads_array {rest : Bytes} {trees : List Written} (h : ReadsItems rest trees) :
    Reads (0x5B :: rest) (.array trees) := by
  obtain ⟨tokens, htokens, hrun⟩ := h
  refine ⟨.openArray :: tokens, tokenizes_mark (by decide) (fun _ => rfl) htokens, ?_⟩
  intro frames demand hdemand
  have hitems := hrun frames [] .valueOrClose (.inr rfl)
  rcases hdemand with rfl | rfl <;> exact hitems

private theorem reads_emptyArray : Reads [0x5B, 0x5D] (.array []) := by
  refine ⟨[.openArray, .closeArray], ?_, fun frames demand hdemand => ?_⟩
  · exact tokenizes_mark (by decide) (fun _ => rfl) (tokenizes_mark (by decide) (fun _ => rfl) .nil)
  · rcases hdemand with rfl | rfl <;> rfl

/-- A key with its value leads from where a key may stand to the place behind the value. -/
private theorem exists_member {bytes : Bytes} {tree : Written} (key : String)
    (h : Reads bytes tree) :
    ∃ tokens, Tokenizes (encode (quote key) ++ 0x3A :: bytes) tokens ∧
      ∀ frames done demand, demand = .key done ∨ demand = .keyOrClose ∧ done = [] →
        tokens.foldlM State.step? ⟨frames, demand⟩ =
          some ⟨.object done (some key) :: frames, .after tree⟩ := by
  obtain ⟨tokens, htokens, hrun⟩ := h
  have hcolon : Tokenizes (0x3A :: bytes) (.colon :: tokens) :=
    tokenizes_mark (by decide) (fun _ => rfl) htokens
  have hkey := Token.tokenizes_quote key
  refine ⟨[.string (some key)] ++ .colon :: tokens, hkey.append hcolon (by simp [isStop]), ?_⟩
  intro frames done demand hdemand
  have hvalue := hrun (.object done (some key) :: frames) .value (.inl rfl)
  rcases hdemand with rfl | ⟨rfl, rfl⟩ <;> exact hvalue

private theorem readsMembers_one {bytes : Bytes} {tree : Written} (key : String)
    (h : Reads bytes tree) :
    ReadsMembers (encode (quote key) ++ 0x3A :: bytes ++ [0x7D]) [(some key, tree)] := by
  obtain ⟨tokens, htokens, hrun⟩ := exists_member key h
  have hclose : Tokenizes [0x7D] [.closeObject] :=
    tokenizes_mark (by decide) (fun _ => rfl) .nil
  refine ⟨tokens ++ [.closeObject], htokens.append hclose (by simp [isStop]), ?_⟩
  intro frames done demand hdemand
  rw [List.foldlM_append, hrun frames done demand hdemand]
  simp [State.step?, State.after?]

private theorem readsMembers_cons {bytes rest : Bytes} {tree : Written}
    {trees : List (Option String × Written)} (key : String) (h : Reads bytes tree)
    (hrest : ReadsMembers rest trees) :
    ReadsMembers (encode (quote key) ++ 0x3A :: bytes ++ 0x2C :: rest)
      ((some key, tree) :: trees) := by
  obtain ⟨tokens, htokens, hrun⟩ := exists_member key h
  obtain ⟨others, hothers, hrunRest⟩ := hrest
  have hcomma : Tokenizes (0x2C :: rest) (.comma :: others) :=
    tokenizes_mark (by decide) (fun _ => rfl) hothers
  refine ⟨tokens ++ .comma :: others, htokens.append hcomma (by simp [isStop]), ?_⟩
  intro frames done demand hdemand
  rw [List.foldlM_append, hrun frames done demand hdemand]
  have hlast := hrunRest frames ((some key, tree) :: done) _ (.inl rfl)
  simpa [State.step?, State.after?, List.foldlM_cons] using hlast

private theorem reads_object {rest : Bytes} {trees : List (Option String × Written)}
    (h : ReadsMembers rest trees) : Reads (0x7B :: rest) (.object trees) := by
  obtain ⟨tokens, htokens, hrun⟩ := h
  refine ⟨.openObject :: tokens, tokenizes_mark (by decide) (fun _ => rfl) htokens, ?_⟩
  intro frames demand hdemand
  have hmembers := hrun frames [] .keyOrClose (.inr ⟨rfl, rfl⟩)
  rcases hdemand with rfl | rfl <;> exact hmembers

private theorem reads_emptyObject : Reads [0x7B, 0x7D] (.object []) := by
  refine ⟨[.openObject, .closeObject], ?_, fun frames demand hdemand => ?_⟩
  · exact tokenizes_mark (by decide) (fun _ => rfl) (tokenizes_mark (by decide) (fun _ => rfl) .nil)
  · rcases hdemand with rfl | rfl <;> rfl

end Written

/-! ## Values that are read back -/

private theorem compactItems_cons (item next : Json) (items : List Json) :
    compactItems (item :: next :: items) = compact item ++ ',' :: compactItems (next :: items) := by
  rw [compactItems]
  exact List.cons_ne_nil _ _

private theorem compactMembers_cons (key : String) (value : Json) (next : String × Json)
    (members : List (String × Json)) :
    compactMembers ((key, value) :: next :: members) =
      quote key ++ ':' :: compact value ++ ',' :: compactMembers (next :: members) := by
  rw [compactMembers]
  exact List.cons_ne_nil _ _

private theorem insert_last {key : String} {value : Json} {done : List (String × Json)}
    (h : ∀ entry ∈ done, entry.1 < key) :
    Entries.insert key value done = done ++ [(key, value)] := by
  induction done with
  | nil => rfl
  | cons entry done ih =>
      obtain ⟨k, v⟩ := entry
      have hlt : k < key := h _ List.mem_cons_self
      have hnot : ¬ key < k := fun hgt => String.lt_irrefl _ (String.lt_trans hlt hgt)
      have hne : k ≠ key := by
        rintro rfl
        exact String.lt_irrefl _ hlt
      have hrest := ih fun entry hentry => h entry (List.mem_cons_of_mem _ hentry)
      rw [Entries.insert, if_neg hnot, if_neg hne, hrest]
      rfl

/-- The tree of a scalar value, whose text is one token. -/
theorem exists_reads_scalar {value : Json} {room : Nat} (hscalar : value.isContainer = false)
    (h : Within Number.ReadsBack room value) :
    ∃ tree other, Written.Reads (encode (compact value)) tree ∧
      ofWritten room tree = .ok other ∧ equal value other = true ∧
      compact other = compact value := by
  cases value with
  | null =>
      have htokens : Tokenizes (encode (compact null)) [.null] := .of_scan rfl
      exact ⟨.null, null, Written.reads_scalar htokens rfl, rfl, rfl, rfl⟩
  | bool b =>
      have htokens : Tokenizes (encode (compact (bool b))) [.bool b] := by
        cases b <;> exact .of_scan rfl
      exact ⟨.bool b, bool b, Written.reads_scalar htokens rfl, rfl, equal_self _, rfl⟩
  | number n =>
      obtain ⟨m, hread, hequal, htext⟩ := Number.ReadsBack.exists_text h
      exact ⟨.number (some m), number m,
        Written.reads_scalar (tokenizes_of_read_number hread) rfl, rfl, hequal, htext⟩
  | string s =>
      exact ⟨.string (some s), string s,
        Written.reads_scalar (Token.tokenizes_quote s) rfl, rfl, equal_self _, rfl⟩
  | array items => cases hscalar
  | object members => cases hscalar

mutual

/-- The compact text of a value leads to a tree of an equal value with the same text. -/
theorem exists_reads (room : Nat) : ∀ value : Json, Canonical value →
    Within Number.ReadsBack room value →
    ∃ tree other, Written.Reads (encode (compact value)) tree ∧
      ofWritten room tree = .ok other ∧ equal value other = true ∧ compact other = compact value
  | null, _, h => exists_reads_scalar rfl h
  | bool b, _, h => exists_reads_scalar rfl h
  | number n, _, h => exists_reads_scalar rfl h
  | string s, _, h => exists_reads_scalar rfl h
  | array [], _, ⟨hroom, _⟩ => by
      obtain ⟨room, rfl⟩ := Nat.exists_eq_add_one.2 hroom
      exact ⟨.array [], array [], Written.reads_emptyArray, rfl, rfl, rfl⟩
  | array (item :: items), hcanonical, ⟨hroom, h⟩ => by
      obtain ⟨trees, others, hreads, hvalues, hequal, hsame⟩ :=
        exists_readsItems (room - 1) (item :: items) (List.cons_ne_nil _ _) hcanonical h
      obtain ⟨room, rfl⟩ := Nat.exists_eq_add_one.2 hroom
      have htext : encode (compact (array (item :: items))) =
          0x5B :: encode (compactItems (item :: items) ++ [']']) := by
        rw [compact, List.cons_append, Text.encode_ascii (by decide)]
        rfl
      refine ⟨.array trees, array others, ?_, ?_, ?_, ?_⟩
      · rw [htext]
        exact Written.reads_array hreads
      · rw [Nat.add_sub_cancel] at hvalues
        rw [ofWritten, hvalues]
        rfl
      · rw [equal, hequal]
      · rw [compact, compact, hsame]
  | object [], _, ⟨hroom, _⟩ => by
      obtain ⟨room, rfl⟩ := Nat.exists_eq_add_one.2 hroom
      exact ⟨.object [], object [], Written.reads_emptyObject, rfl, rfl, rfl⟩
  | object (member :: members), ⟨hsorted, hcanonical⟩, ⟨hroom, h⟩ => by
      obtain ⟨trees, others, hreads, hvalues, hequal, hsame⟩ :=
        exists_readsMembers (room - 1) (member :: members) (List.cons_ne_nil _ _) hsorted
          hcanonical h
      obtain ⟨room, rfl⟩ := Nat.exists_eq_add_one.2 hroom
      have htext : encode (compact (object (member :: members))) =
          0x7B :: encode (compactMembers (member :: members) ++ ['}']) := by
        rw [compact, List.cons_append, Text.encode_ascii (by decide)]
        rfl
      refine ⟨.object trees, object others, ?_, ?_, ?_, ?_⟩
      · rw [htext]
        exact Written.reads_object hreads
      · have hall := hvalues [] (by simp)
        rw [Nat.add_sub_cancel] at hall
        rw [ofWritten, hall]
        rfl
      · rw [equal, hequal]
      · rw [compact, compact, hsame]

/-- The texts of items with the bracket behind them lead to trees of equal items with the same
texts. -/
theorem exists_readsItems (room : Nat) : ∀ items : List Json, items ≠ [] → CanonicalItems items →
    WithinItems Number.ReadsBack room items →
    ∃ trees others, Written.ReadsItems (encode (compactItems items ++ [']'])) trees ∧
      itemsOfWritten room trees = .ok others ∧ equalItems items others = true ∧
      compactItems others = compactItems items
  | [], hne, _, _ => absurd rfl hne
  | [item], _, ⟨hitem, _⟩, ⟨h, _⟩ => by
      obtain ⟨tree, other, hreads, hvalue, hequal, hsame⟩ := exists_reads room item hitem h
      refine ⟨[tree], [other], ?_, ?_, ?_, ?_⟩
      · rw [compactItems, Text.encode_append]
        exact Written.readsItems_one hreads
      · rw [itemsOfWritten, hvalue]
        rfl
      · rw [equalItems, hequal]
        rfl
      · rw [compactItems, compactItems, hsame]
  | item :: second :: items, _, ⟨hitem, hitems⟩, ⟨h, hrest⟩ => by
      obtain ⟨tree, other, hreads, hvalue, hequal, hsame⟩ := exists_reads room item hitem h
      obtain ⟨trees, others, hreads', hvalues, hequal', hsame'⟩ :=
        exists_readsItems room (second :: items) (List.cons_ne_nil _ _) hitems hrest
      refine ⟨tree :: trees, other :: others, ?_, ?_, ?_, ?_⟩
      · have htext : encode (compactItems (item :: second :: items) ++ [']']) =
            encode (compact item) ++
              0x2C :: encode (compactItems (second :: items) ++ [']']) := by
          rw [compactItems_cons, List.append_assoc, Text.encode_append, List.cons_append,
            Text.encode_ascii (by decide)]
          rfl
        rw [htext]
        exact Written.readsItems_cons hreads hreads'
      · rw [itemsOfWritten, hvalue, hvalues]
        rfl
      · rw [equalItems, hequal, hequal']
        rfl
      · cases others with
        | nil => cases hequal'
        | cons next others => rw [compactItems_cons, compactItems_cons, hsame, hsame']

/-- The texts of members with the bracket behind them lead to trees of equal members with the same
texts. -/
theorem exists_readsMembers (room : Nat) : ∀ members : List (String × Json), members ≠ [] →
    Entries.Sorted members → CanonicalMembers members →
    WithinMembers Number.ReadsBack room members →
    ∃ trees others, Written.ReadsMembers (encode (compactMembers members ++ ['}'])) trees ∧
      (∀ done : List (String × Json), (∀ entry ∈ done, ∀ member ∈ members, entry.1 < member.1) →
        membersOfWritten room done trees = .ok (done ++ others)) ∧
      equalMembers members others = true ∧ compactMembers others = compactMembers members
  | [], hne, _, _, _ => absurd rfl hne
  | [(key, value)], _, _, ⟨hvalue, _⟩, ⟨h, _⟩ => by
      obtain ⟨tree, other, hreads, htree, hequal, hsame⟩ := exists_reads room value hvalue h
      refine ⟨[(some key, tree)], [(key, other)], ?_, fun done hdone => ?_, ?_, ?_⟩
      · rw [compactMembers, Text.encode_append, Text.encode_append,
          Text.encode_ascii (by decide)]
        exact Written.readsMembers_one key hreads
      · have hlast : ∀ entry ∈ done, entry.1 < key := fun entry hentry =>
          hdone entry hentry _ List.mem_cons_self
        rw [membersOfWritten, htree]
        show membersOfWritten room (Entries.insert key other done) [] = _
        rw [insert_last hlast]
        rfl
      · rw [equalMembers, hequal]
        simp [equalMembers]
      · rw [compactMembers, compactMembers, hsame]
  | (key, value) :: second :: members, _, hsorted, ⟨hvalue, hmembers⟩, ⟨h, hrest⟩ => by
      obtain ⟨hfirst, hsorted'⟩ := List.pairwise_cons.1 hsorted
      obtain ⟨tree, other, hreads, htree, hequal, hsame⟩ := exists_reads room value hvalue h
      obtain ⟨trees, others, hreads', hvalues, hequal', hsame'⟩ :=
        exists_readsMembers room (second :: members) (List.cons_ne_nil _ _) hsorted' hmembers hrest
      refine ⟨(some key, tree) :: trees, (key, other) :: others, ?_, fun done hdone => ?_, ?_, ?_⟩
      · have htext : encode (compactMembers ((key, value) :: second :: members) ++ ['}']) =
            encode (quote key) ++ 0x3A :: encode (compact value) ++
              0x2C :: encode (compactMembers (second :: members) ++ ['}']) := by
          rw [compactMembers_cons, List.append_assoc, Text.encode_append, Text.encode_append,
            Text.encode_ascii (by decide), List.cons_append, Text.encode_ascii (by decide)]
          rfl
        rw [htext]
        exact Written.readsMembers_cons key hreads hreads'
      · have hlast : ∀ entry ∈ done, entry.1 < key := fun entry hentry =>
          hdone entry hentry _ List.mem_cons_self
        have hnext : ∀ entry ∈ done ++ [(key, other)], ∀ member ∈ second :: members,
            entry.1 < member.1 := by
          intro entry hentry member hmember
          rcases List.mem_append.1 hentry with hentry | hentry
          · exact hdone entry hentry member (List.mem_cons_of_mem _ hmember)
          · rw [List.mem_singleton.1 hentry]
            exact hfirst member hmember
        rw [membersOfWritten, htree]
        show membersOfWritten room (Entries.insert key other done) trees = _
        rw [insert_last hlast, hvalues _ hnext, List.append_assoc]
        rfl
      · rw [equalMembers, hequal, hequal']
        simp
      · cases others with
        | nil => cases hequal'
        | cons next others => rw [compactMembers_cons, compactMembers_cons, hsame, hsame']

end

/-- The compact text of a value is read as an equal value with the same text. -/
theorem read_compactBytes_again {value : Json} (hcanonical : Canonical value)
    (h : Within Number.ReadsBack maxDepth value) :
    ∃ other, read value.compactBytes = .ok other ∧ equal value other = true ∧
      other.compactString = value.compactString := by
  obtain ⟨tree, other, ⟨tokens, htokens, hrun⟩, hvalue, hequal, hsame⟩ :=
    exists_reads maxDepth value hcanonical h
  have htree := Written.ofTokens?_eq_some_iff.2 (hrun [] .value (.inl rfl))
  exact ⟨other, read_of_tokenizes htokens htree hvalue, hequal, congrArg String.ofList hsame⟩

/-- The compact text of a value is read as an equal value. -/
theorem read_compactBytes {value : Json} (hcanonical : Canonical value)
    (h : Within Number.ReadsBack maxDepth value) :
    ∃ other, read value.compactBytes = .ok other ∧ equal value other = true := by
  obtain ⟨other, hread, hequal, _⟩ := read_compactBytes_again hcanonical h
  exact ⟨other, hread, hequal⟩

end ClusterEvidence.Json
