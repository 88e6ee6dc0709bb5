import ClusterEvidence.Json.Record
import ClusterEvidence.Proofs.Traverse

/-!
# Which trees are records

A decoder of a record goes through a tree once, and what it makes of it is put together from two
facts. Whether the tree is a record at all depends on its form alone (`IsRecord`): an object whose
keys are text and name no declared field twice, or an array of at most as many items as there are
fields. And then each field has one value or none (`Written.field?`), by its name in an object and
by its place in an array.

## Main results

* `Decoder.record_eq_ok_iff`: what a record is read as.
* `Written.getD_given`: what a field with a default is read as.
-/

namespace ClusterEvidence.Json

variable {α : Type} {names : List String} {name : String} {room : Nat} {tree : Written}
  {members : List (Option String × Written)}

/-- The trees that can be read as a record with these fields. -/
inductive IsRecord (names : List String) : Written → Prop where
  | object {members : List (Option String × Written)}
      (hkeys : ∀ member ∈ members, member.1 ≠ none)
      (honce : ((members.filterMap (·.1)).filter names.contains).Nodup) :
      IsRecord names (.object members)
  | array {trees : List Written} (hlength : trees.length ≤ names.length) :
      IsRecord names (.array trees)

namespace Written

/-- The value of a field: the member of its name, or the item at its place. -/
def field? (names : List String) (name : String) : Written → Option Written
  | .object members => (members.find? (·.1 == some name)).map (·.2)
  | .array trees => trees[names.idxOf name]?
  | _ => none

/-- The members that declared fields take. -/
def declaredIn (names : List String) :
    List (Option String × Written) → List (String × Written)
  | [] => []
  | (none, _) :: rest => declaredIn names rest
  | (some key, tree) :: rest =>
      if names.contains key then (key, tree) :: declaredIn names rest else declaredIn names rest

/-- The declared fields that a tree gives. -/
def given (names : List String) : Written → List (String × Written)
  | .object members => declaredIn names members
  | .array trees => names.zip trees
  | _ => []

/-! ## Objects -/

private theorem keys_declaredIn (names : List String) (members : List (Option String × Written)) :
    (declaredIn names members).map (·.1) =
      (members.filterMap (·.1)).filter names.contains := by
  induction members with
  | nil => rfl
  | cons member members ih =>
      obtain ⟨key?, tree⟩ := member
      cases key? with
      | none => exact ih
      | some key =>
          have hkeys : ((some key, tree) :: members).filterMap (·.1) =
              key :: members.filterMap (·.1) := rfl
          rw [declaredIn, hkeys, List.filter_cons]
          split
          · rw [List.map_cons, ih]
          · exact ih

private theorem lookup_declaredIn (hname : name ∈ names)
    (members : List (Option String × Written)) :
    (declaredIn names members).lookup name =
      (members.find? (·.1 == some name)).map (·.2) := by
  induction members with
  | nil => rfl
  | cons member members ih =>
      obtain ⟨key?, tree⟩ := member
      cases key? with
      | none => exact ih
      | some key =>
          rw [declaredIn, List.find?_cons]
          by_cases hkey : key = name
          · subst hkey
            simp [hname]
          · have hbehind : (some key == some name) = false := by simp [hkey]
            have hbefore : (name == key) = false := by simp [Ne.symm hkey]
            rw [hbehind, ← ih]
            split
            · rw [List.lookup_cons, hbefore]
            · rfl

/-- A field that an array gives stands at its place. -/
private theorem lookup_zip (hname : name ∈ names) (trees : List Written) :
    (names.zip trees).lookup name = trees[names.idxOf name]? := by
  induction names generalizing trees with
  | nil => cases hname
  | cons first names ih =>
      cases trees with
      | nil => simp
      | cons tree trees =>
          rw [List.zip_cons_cons, List.lookup_cons, List.idxOf_cons]
          by_cases hfirst : name = first
          · subst hfirst
            simp
          · have hbefore : (name == first) = false := by simp [hfirst]
            have hbehind : (first == name) = false := by simp [Ne.symm hfirst]
            have hrest : name ∈ names := (List.mem_cons.1 hname).resolve_left hfirst
            rw [hbefore, hbehind]
            exact ih hrest trees

/-- A declared field is looked up by its name or its place. -/
private theorem lookup_given (hname : name ∈ names) (tree : Written) :
    (tree.given names).lookup name = tree.field? names name := by
  cases tree with
  | object members => exact lookup_declaredIn hname members
  | array trees => exact lookup_zip hname trees
  | _ => rfl

/-- A field with a default. -/
theorem getD_given (hname : name ∈ names) (decoder : Decoder α) (default : α) :
    (Fields.mk room (tree.given names)).getD name decoder default =
      (tree.field? names name).elim (.ok default) (decoder room) := by
  rw [Fields.getD, lookup_given hname]
  cases tree.field? names name <;> rfl

end Written

namespace Decoder

theorem items_eq_mapAll (decoder : Decoder α) (room : Nat) (trees : List Written) :
    items decoder room trees = mapAll (decoder room) trees := by
  induction trees with
  | nil => rfl
  | cons tree trees ih => rw [items, mapAll, ih]

/-- The fields behind a member are taken first, and then its own unless one of them is the same. -/
private theorem declared_cons_eq_ok_iff {key : String} {given : List (String × Written)} :
    declared names ((some key, tree) :: members) = .ok given ↔
      ∃ others, declared names members = .ok others ∧
        (names.contains key = true → others.any (·.1 == key) = false) ∧
        given = if names.contains key then (key, tree) :: others else others := by
  rw [declared, bind_eq_ok_iff]
  refine exists_congr fun others => and_congr_right' ?_
  cases hdeclared : names.contains key with
  | false =>
      simp only [Bool.not_false, if_true, Bool.false_eq_true, if_false, false_implies, true_and,
        Except.ok.injEq]
      exact eq_comm
  | true =>
      cases others.any (·.1 == key) with
      | true => simp
      | false =>
          simp only [Bool.not_true, Bool.false_eq_true, if_false, if_true, forall_const, true_and,
            Except.ok.injEq]
          exact eq_comm

/-- The fields of an object are taken if every key is text and no field is given twice. -/
private theorem declared_eq_ok_iff {given : List (String × Written)} :
    declared names members = .ok given ↔
      (∀ member ∈ members, member.1 ≠ none) ∧
        ((members.filterMap (·.1)).filter names.contains).Nodup ∧
        given = Written.declaredIn names members := by
  induction members generalizing given with
  | nil => simp [declared, Written.declaredIn, eq_comm]
  | cons member members ih =>
      obtain ⟨key?, tree⟩ := member
      cases key? with
      | none => simp [declared]
      | some key =>
          have hkeys : ((some key, tree) :: members).filterMap (·.1) =
              key :: members.filterMap (·.1) := rfl
          have hfresh : (Written.declaredIn names members).any (·.1 == key) = false ↔
              key ∉ (members.filterMap (·.1)).filter names.contains := by
            rw [← Written.keys_declaredIn, ← Bool.not_eq_true]
            simp
          have honce : ((key :: members.filterMap (·.1)).filter names.contains).Nodup ↔
              (names.contains key = true →
                key ∉ (members.filterMap (·.1)).filter names.contains) ∧
              ((members.filterMap (·.1)).filter names.contains).Nodup := by
            rw [List.filter_cons]
            cases names.contains key <;> simp
          rw [declared_cons_eq_ok_iff, hkeys, honce, List.forall_mem_cons, Written.declaredIn]
          constructor
          · rintro ⟨others, hothers, htwice, hgiven⟩
            obtain ⟨htext, hrest, rfl⟩ := ih.1 hothers
            exact ⟨⟨nofun, htext⟩, ⟨fun h => hfresh.1 (htwice h), hrest⟩, hgiven⟩
          · rintro ⟨⟨-, htext⟩, ⟨htwice, hrest⟩, hgiven⟩
            exact ⟨_, ih.2 ⟨htext, hrest, rfl⟩, fun h => hfresh.2 (htwice h), hgiven⟩

/-- What a record is read as: its fields in the room that it leaves for them. -/
theorem record_eq_ok_iff {build : Fields → Except Fault α} {value : α} :
    record names build (room + 1) tree = .ok value ↔
      IsRecord names tree ∧ build ⟨room, tree.given names⟩ = .ok value := by
  cases tree with
  | object members =>
      rw [record]
      constructor
      · intro h
        obtain ⟨given, hgiven, hbuild⟩ := bind_eq_ok_iff.1 h
        obtain ⟨hkeys, honce, rfl⟩ := declared_eq_ok_iff.1 hgiven
        exact ⟨.object hkeys honce, hbuild⟩
      · rintro ⟨hrecord, hbuild⟩
        cases hrecord with
        | object hkeys honce =>
            exact bind_eq_ok_iff.2 ⟨_, declared_eq_ok_iff.2 ⟨hkeys, honce, rfl⟩, hbuild⟩
  | array trees =>
      rw [record]
      split
      next hmore =>
        refine ⟨nofun, fun h => ?_⟩
        cases h.1 with
        | array hlength => exact absurd hmore (Nat.not_lt.2 hlength)
      next hfew => exact ⟨fun h => ⟨.array (Nat.not_lt.1 hfew), h⟩, fun h => h.2⟩
  | _ =>
      refine ⟨nofun, fun h => ?_⟩
      cases h.1

end Decoder

end ClusterEvidence.Json
