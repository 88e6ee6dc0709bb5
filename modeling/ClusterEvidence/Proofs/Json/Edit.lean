import ClusterEvidence.Json.Patch
import ClusterEvidence.Json.Reader
import ClusterEvidence.Proofs.Json.Equality
import ClusterEvidence.Proofs.Json.Pointer

/-!
# Edits of documents

An operation of a patch is a change at a place, and a place is a list of keys. Applied to an
object, an edit only looks at the member under its first key and only touches that one
(`alter?_object`), so that edits whose places are apart can be made in any order.

## Main results

* `alter?_object` — an edit of an object is a change of one member.
* `alter?_comm` — changes at places that are apart commute, failures included.
* `Edit.applyAll?_perm` — edits that are pairwise apart may be made in any order.
-/

namespace ClusterEvidence

namespace Entries

variable {α : Type}

/-! ## Putting one member -/

/-- The entries with a value under a key, or with none. -/
def put (key : String) : Option α → List (String × α) → List (String × α)
  | none, entries => erase key entries
  | some value, entries => insert key value entries

theorem get?_put (key other : String) (value : Option α) (entries : List (String × α)) :
    get? other (put key value entries) = if key = other then value else get? other entries := by
  cases value with
  | none => exact get?_erase key other entries
  | some value => exact get?_insert key other value entries

theorem Sorted.put {entries : List (String × α)} (h : Sorted entries) (key : String)
    (value : Option α) : Sorted (Entries.put key value entries) := by
  cases value with
  | none => exact h.erase key
  | some value => exact h.insert key value

/-- Putting what is there changes nothing. -/
theorem Sorted.put_get? {entries : List (String × α)} (h : Sorted entries) (key : String) :
    Entries.put key (Entries.get? key entries) entries = entries := by
  refine (h.put key _).ext h fun other => ?_
  rw [get?_put]
  split
  · next heq => rw [heq]
  · rfl

/-- The value that is put last stays. -/
theorem Sorted.put_put {entries : List (String × α)} (h : Sorted entries) (key : String)
    (first last : Option α) :
    Entries.put key last (Entries.put key first entries) = Entries.put key last entries := by
  refine ((h.put key _).put key _).ext (h.put key _) fun other => ?_
  rw [get?_put, get?_put, get?_put]
  split <;> rfl

/-- Values under different keys may be put in either order. -/
private theorem Sorted.put_comm {entries : List (String × α)} (h : Sorted entries)
    {key other : String} (hne : key ≠ other) (left right : Option α) :
    Entries.put other right (Entries.put key left entries) =
      Entries.put key left (Entries.put other right entries) := by
  refine ((h.put key _).put other _).ext ((h.put other _).put key _) fun found => ?_
  rw [get?_put, get?_put, get?_put, get?_put]
  by_cases hkey : key = found
  · subst hkey
    simp [Ne.symm hne]
  · simp [hkey]

end Entries

namespace Json

/-! ## A change of one member -/

/-- What a change below a member makes of the member. -/
def alterMember? (f : Option Json → Option (Option Json)) :
    List String → Option Json → Option (Option Json)
  | [], found => f found
  | path, found => found.bind fun value => (alter? f path value).map some

/-- Below a member only a member that is there is changed. -/
theorem alterMember?_of_ne_nil (f : Option Json → Option (Option Json)) {path : List String}
    (h : path ≠ []) (found : Option Json) :
    alterMember? f path found = found.bind fun value => (alter? f path value).map some := by
  cases path with
  | nil => exact absurd rfl h
  | cons => rfl

/-- An edit of an object is a change of one member. -/
theorem alter?_object (f : Option Json → Option (Option Json)) (key : String)
    (path : List String) (members : List (String × Json)) :
    alter? f (key :: path) (object members) =
      (alterMember? f path (Entries.get? key members)).map fun value =>
        object (Entries.put key value members) := by
  cases path with
  | nil =>
      rw [alter?, alterMember?]
      cases f (Entries.get? key members) with
      | none => rfl
      | some value => cases value <;> rfl
  | cons next path =>
      rw [alter?.eq_def, alterMember?_of_ne_nil f (by simp)]
      cases hget : Entries.get? key members with
      | none => simp [hget]
      | some value => cases h : alter? f (next :: path) value <;> simp [hget, h, Entries.put]

/-- Only objects have members to change. -/
private theorem alter?_leaf (f : Option Json → Option (Option Json)) (key : String)
    (path : List String)
    {value : Json} (h : value.isObject = false) : alter? f (key :: path) value = none := by
  cases value with
  | object => simp [isObject] at h
  | _ => cases path <;> rfl

/-- A canonical object stays canonical when a canonical member is put. -/
private theorem canonical_put {members : List (String × Json)} (h : Canonical (object members))
    {key : String} {value : Option Json} (hvalue : ∀ found, value = some found → Canonical found) :
    Canonical (object (Entries.put key value members)) := by
  refine ⟨h.1.put key value, ?_⟩
  cases value with
  | none =>
      have hall : ∀ member ∈ members, Canonical member.2 := fun member hmember =>
        h.2.get? (h.1.get?_eq_some_iff.2 hmember)
      clear h
      induction members with
      | nil => trivial
      | cons member members ih =>
          obtain ⟨k, v⟩ := member
          have ih := ih fun member hmember => hall member (List.mem_cons_of_mem _ hmember)
          simp only [Entries.put, Entries.erase] at ih ⊢
          rw [List.filter_cons]
          split
          · exact ⟨hall (k, v) List.mem_cons_self, ih⟩
          · exact ih
  | some value => exact h.2.insert key (hvalue value rfl)

/-- A change that puts in canonical values keeps a document canonical. -/
private theorem canonical_of_alter? {f : Option Json → Option (Option Json)}
    (hf : ∀ found value, f found = some (some value) → Canonical value) {path : List String}
    {document changed : Json} (hdocument : Canonical document)
    (h : alter? f path document = some changed) : Canonical changed := by
  induction path generalizing document changed with
  | nil =>
      rw [alter?] at h
      obtain ⟨value, hvalue, heq⟩ := Option.bind_eq_some_iff.1 h
      exact hf _ changed (by rw [hvalue, ← heq]; rfl)
  | cons key path ih =>
      cases document with
      | object members =>
          rw [alter?_object] at h
          obtain ⟨value, hvalue, rfl⟩ := Option.map_eq_some_iff.1 h
          refine canonical_put hdocument fun found hfound => ?_
          subst hfound
          by_cases hpath : path = []
          · subst hpath
            exact hf _ found hvalue
          · rw [alterMember?_of_ne_nil f hpath] at hvalue
            obtain ⟨old, hold, hvalue⟩ := Option.bind_eq_some_iff.1 hvalue
            obtain ⟨new, hnew, heq⟩ := Option.map_eq_some_iff.1 hvalue
            cases heq
            exact ih (hdocument.2.get? hold) hnew
      | _ => rw [alter?_leaf f key path rfl] at h; cases h

/-! ## Places that are apart -/

/-- Neither place is the other or lies below it. -/
def Apart (p q : List String) : Prop := ¬ p <+: q ∧ ¬ q <+: p

theorem Apart.symm {p q : List String} (h : Apart p q) : Apart q p := ⟨h.2, h.1⟩

/-- Below one key, places are apart as they are without it. -/
theorem apart_cons_iff {key : String} {p q : List String} :
    Apart (key :: p) (key :: q) ↔ Apart p q := by
  simp [Apart, List.cons_prefix_cons]

/-- Places below different keys are apart. -/
theorem apart_of_ne {k l : String} (h : k ≠ l) (p q : List String) : Apart (k :: p) (l :: q) := by
  simp [Apart, List.cons_prefix_cons, h, Ne.symm h]

private theorem Apart.ne_nil {p q : List String} (h : Apart p q) : p ≠ [] := by
  rintro rfl
  exact h.1 List.nil_prefix

/-- What a change at a place of an object is followed by, when that goes to the same member. -/
private theorem alter?_bind_same {f g : Option Json → Option (Option Json)} {key : String}
    {p q : List String} (hp : p ≠ []) (hq : q ≠ []) {members : List (String × Json)}
    (hsorted : Entries.Sorted members) :
    (alter? f (key :: p) (object members)).bind (alter? g (key :: q)) =
      (Entries.get? key members).bind fun value =>
        ((alter? f p value).bind (alter? g q)).map fun new =>
          object (Entries.put key (some new) members) := by
  rw [alter?_object, alterMember?_of_ne_nil f hp]
  cases Entries.get? key members with
  | none => rfl
  | some value =>
      cases hvalue : alter? f p value with
      | none => simp [hvalue]
      | some next =>
          simp only [Option.bind_some, Option.map_some, hvalue]
          rw [alter?_object, Entries.get?_put, if_pos rfl, alterMember?_of_ne_nil g hq,
            Option.bind_some, Option.map_map]
          congr 1
          funext new
          simp only [Function.comp_apply, hsorted.put_put]

/-- Changes at places that are apart commute; when one of them fails, both orders do. -/
theorem alter?_comm {f g : Option Json → Option (Option Json)} {p q : List String}
    (h : Apart p q) {document : Json} (hdocument : Canonical document) :
    (alter? f p document).bind (alter? g q) = (alter? g q document).bind (alter? f p) := by
  induction p generalizing q document with
  | nil => exact absurd rfl h.ne_nil
  | cons k p ih =>
      cases q with
      | nil => exact absurd rfl h.symm.ne_nil
      | cons l q =>
          cases document with
          | object members =>
              by_cases hkl : k = l
              · subst hkl
                have hpq := apart_cons_iff.1 h
                rw [alter?_bind_same hpq.ne_nil hpq.symm.ne_nil hdocument.1,
                  alter?_bind_same hpq.symm.ne_nil hpq.ne_nil hdocument.1]
                cases hvalue : Entries.get? k members with
                | none => rfl
                | some value =>
                    rw [Option.bind_some, Option.bind_some, ih hpq (hdocument.2.get? hvalue)]
              · rw [alter?_object, alter?_object]
                cases hleft : alterMember? f p (Entries.get? k members) with
                | none =>
                    cases hright : alterMember? g q (Entries.get? l members) with
                    | none => rfl
                    | some right =>
                        simp [alter?_object, Entries.get?_put, Ne.symm hkl, hleft]
                | some left =>
                    cases hright : alterMember? g q (Entries.get? l members) with
                    | none => simp [alter?_object, Entries.get?_put, hkl, hright]
                    | some right =>
                        simp [alter?_object, Entries.get?_put, hkl, Ne.symm hkl, hleft, hright,
                          hdocument.1.put_comm hkl]
          | _ => rw [alter?_leaf f k p rfl, alter?_leaf g l q rfl]; rfl

/-! ## Edits -/

/-- What an operation does at its place. -/
inductive Change where
  | add (value : Json)
  | remove
  | replace (value : Json)

/-- What a change makes of what is there, unless it refuses. -/
def Change.make? : Change → Option Json → Option (Option Json)
  | add value, found => if found.isNone then some (some value) else none
  | remove, found => if found.isSome then some none else none
  | replace value, found => if found.isSome then some (some value) else none

/-- A change puts in a canonical value if it puts in any. -/
def Change.Canonical : Change → Prop
  | add value => Json.Canonical value
  | remove => True
  | replace value => Json.Canonical value

private theorem Change.Canonical.make? {change : Change} (h : change.Canonical)
    {found : Option Json}
    {value : Json} (hvalue : change.make? found = some (some value)) : Json.Canonical value := by
  cases change <;> cases found <;> simp_all [Change.make?, Change.Canonical]

/-- A change at a place. -/
structure Edit where
  place : List String
  change : Change

/-- The operation of a patch as an edit. -/
def Operation.edit : Operation → Edit
  | .add path value => ⟨Pointer.keys path, .add value⟩
  | .remove path => ⟨Pointer.keys path, .remove⟩
  | .replace path value => ⟨Pointer.keys path, .replace value⟩

namespace Edit

/-- The document after an edit. -/
def make? (document : Json) (edit : Edit) : Option Json :=
  alter? edit.change.make? edit.place document

/-- The document after edits, one after another. -/
def applyAll? (edits : List Edit) (document : Json) : Option Json :=
  edits.foldlM make? document

@[simp] theorem applyAll?_nil (document : Json) : applyAll? [] document = some document := rfl

@[simp] theorem applyAll?_cons (edit : Edit) (edits : List Edit) (document : Json) :
    applyAll? (edit :: edits) document = (edit.make? document).bind (applyAll? edits) := rfl

theorem applyAll?_append (first last : List Edit) (document : Json) :
    applyAll? (first ++ last) document =
      (applyAll? first document).bind (applyAll? last) := by
  induction first generalizing document with
  | nil => rfl
  | cons edit first ih =>
      rw [List.cons_append, applyAll?_cons, applyAll?_cons, Option.bind_assoc]
      congr 1
      funext next
      exact ih next

/-- A patch is applied as the edits that it lists. -/
theorem applyAll?_operations (operations : List Operation) (document : Json) :
    Operation.applyAll? operations document =
      applyAll? (operations.map Operation.edit) document := by
  have hone : ∀ document operation,
      Operation.apply? document operation = (Operation.edit operation).make? document :=
    fun document operation => by cases operation <;> rfl
  rw [Operation.applyAll?, applyAll?, List.foldlM_map]
  congr 1
  funext document operation
  exact hone document operation

/-- An edit with a canonical value keeps a document canonical. -/
private theorem canonical_make? {edit : Edit} (hedit : edit.change.Canonical)
    {document changed : Json}
    (hdocument : Canonical document) (h : edit.make? document = some changed) :
    Canonical changed :=
  canonical_of_alter? (fun _ _ hvalue => hedit.make? hvalue) hdocument h

/-- Edits that are pairwise apart may be made in any order. -/
theorem applyAll?_perm {edits others : List Edit} (h : edits.Perm others)
    (hapart : edits.Pairwise fun e e' => Apart e.place e'.place)
    (hcanonical : ∀ edit ∈ edits, edit.change.Canonical) {document : Json}
    (hdocument : Canonical document) :
    applyAll? edits document = applyAll? others document := by
  induction h generalizing document with
  | nil => rfl
  | cons edit _ ih =>
      obtain ⟨_, hrest⟩ := List.pairwise_cons.1 hapart
      rw [applyAll?_cons, applyAll?_cons]
      cases hnext : edit.make? document with
      | none => rfl
      | some next =>
          exact ih hrest (fun e he => hcanonical e (List.mem_cons_of_mem _ he))
            (canonical_make? (hcanonical edit List.mem_cons_self) hdocument hnext)
  | swap first second rest =>
      obtain ⟨hfirst, _⟩ := List.pairwise_cons.1 hapart
      have hswap := alter?_comm (f := second.change.make?) (g := first.change.make?)
        (hfirst first List.mem_cons_self) hdocument
      calc applyAll? (second :: first :: rest) document
          = ((second.make? document).bind fun next => first.make? next).bind
              (applyAll? rest) := (Option.bind_assoc ..).symm
        _ = ((first.make? document).bind fun next => second.make? next).bind
              (applyAll? rest) := congrArg (Option.bind · (applyAll? rest)) hswap
        _ = applyAll? (first :: second :: rest) document := Option.bind_assoc ..
  | trans hleft _ ihleft ihright =>
      have hapart' := (hleft.pairwise_iff fun h => h.symm).1 hapart
      have hcanonical' := fun edit hedit => hcanonical edit (hleft.mem_iff.2 hedit)
      exact (ihleft hapart hcanonical hdocument).trans (ihright hapart' hcanonical' hdocument)

end Edit

end Json

end ClusterEvidence
