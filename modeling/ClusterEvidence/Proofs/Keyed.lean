import ClusterEvidence.Keyed

/-!
# Look-ups in lists of entries

Where entries are stored one after another, the last one of a key is found. A list that was stored
is therefore looked up in reverse.

## Main results

* `Keyed.get?_insertMany` — after a list is stored, its last entry of a key is found.
* `Keyed.insertMany_insertMany` — storing a list twice is storing it once.
-/

namespace ClusterEvidence

variable {α : Type}

namespace Entries

theorem get?_append (key : String) (a b : List (String × α)) :
    get? key (a ++ b) = (get? key a).or (get? key b) := by
  induction a with
  | nil => rfl
  | cons entry a ih =>
      obtain ⟨k, v⟩ := entry
      rw [List.cons_append, get?_cons, get?_cons, ih]
      split <;> rfl

/-- A key is not found exactly when no entry has it. -/
theorem get?_eq_none_iff {key : String} {entries : List (String × α)} :
    get? key entries = none ↔ ∀ entry ∈ entries, entry.1 ≠ key := by
  induction entries with
  | nil => simp
  | cons entry entries ih =>
      obtain ⟨k, v⟩ := entry
      by_cases hk : k = key <;> simp [get?_cons, hk, ih]

/-- The only value of a key is found. -/
theorem get?_eq_some_of_mem {key : String} {value : α} {entries : List (String × α)}
    (hmem : (key, value) ∈ entries)
    (hone : ∀ other, (key, other) ∈ entries → other = value) :
    get? key entries = some value := by
  cases hget : get? key entries with
  | none => exact absurd rfl (get?_eq_none_iff.1 hget _ hmem)
  | some other => rw [hone other (mem_of_get? hget)]

/-- Of two entries put in under one key the second stays. -/
theorem insert_insert (key : String) (first second : α) (entries : List (String × α)) :
    insert key second (insert key first entries) = insert key second entries := by
  have hself (rest : List (String × α)) :
      insert key second ((key, first) :: rest) = (key, second) :: rest := by
    rw [insert, if_neg (String.lt_irrefl key), if_pos rfl]
  induction entries with
  | nil => exact hself []
  | cons entry entries ih =>
      obtain ⟨k, v⟩ := entry
      by_cases hlt : key < k
      · rw [insert, if_pos hlt, hself, insert, if_pos hlt]
      · by_cases hk : k = key
        · rw [insert, if_neg hlt, if_pos hk, hself, insert, if_neg hlt, if_pos hk]
        · rw [insert, if_neg hlt, if_neg hk, insert, if_neg hlt, if_neg hk, ih, insert, if_neg hlt,
            if_neg hk]

/-- Looked up in reverse, a list gives the last entry of a key. -/
private theorem get?_reverse (key : String) (entries : List (String × α)) :
    get? key entries.reverse =
      ((entries.filter fun entry => entry.1 = key).getLast?).map (·.2) := by
  induction entries with
  | nil => rfl
  | cons entry entries ih =>
      obtain ⟨k, v⟩ := entry
      rw [List.reverse_cons, get?_append, ih, get?_cons, get?_nil]
      by_cases hk : k = key
      · rw [if_pos hk, List.filter_cons_of_pos (by simpa using hk), List.getLast?_cons]
        cases (entries.filter fun entry => entry.1 = key).getLast? <;> rfl
      · rw [if_neg hk, List.filter_cons_of_neg (by simpa using hk), Option.or_none]

/-- In a sorted list it does not matter from which end one looks. -/
theorem Sorted.get?_reverse {entries : List (String × α)} (h : Sorted entries) (key : String) :
    get? key entries.reverse = get? key entries := by
  cases hget : get? key entries with
  | none =>
      apply get?_eq_none_iff.2
      intro entry hentry
      exact get?_eq_none_iff.1 hget entry (List.mem_reverse.1 hentry)
  | some value =>
      apply get?_eq_some_of_mem (List.mem_reverse.2 (mem_of_get? hget))
      intro other hother
      have hfound := h.get?_eq_some_iff.2 (List.mem_reverse.1 hother)
      rw [hget] at hfound
      exact (Option.some.inj hfound).symm

private theorem get?_mapValues {β : Type} (key : String) (f : String → α → β)
    (entries : List (String × α)) :
    get? key (entries.map fun entry => (entry.1, f entry.1 entry.2)) =
      (get? key entries).map (f key) := by
  induction entries with
  | nil => rfl
  | cons entry entries ih =>
      obtain ⟨k, v⟩ := entry
      rw [List.map_cons, get?_cons, get?_cons, ih]
      by_cases hk : k = key
      · rw [if_pos hk, if_pos hk, hk]
        rfl
      · rw [if_neg hk, if_neg hk]

end Entries

namespace Keyed

/-- The keys of a map are those that find something. -/
theorem mem_keys_iff {map : Keyed α} {key : String} :
    key ∈ map.keys ↔ ∃ value, map.get? key = some value := by
  constructor
  · intro h
    obtain ⟨⟨_, value⟩, hentry, rfl⟩ := List.mem_map.1 h
    exact ⟨value, (map.mem_entries_iff _ value).1 hentry⟩
  · rintro ⟨value, hvalue⟩
    exact List.mem_map.2 ⟨(key, value), (map.mem_entries_iff key value).2 hvalue, rfl⟩

/-- Every value is changed, and no key is added or lost. -/
theorem get?_mapValues {β : Type} (map : Keyed α) (f : String → α → β) (key : String) :
    (map.mapValues f).get? key = (map.get? key).map (f key) :=
  Entries.get?_mapValues key f map.entries

/-- After a list is stored, its last entry of a key is found. -/
theorem get?_insertMany (map : Keyed α) (entries : List (String × α)) (key : String) :
    (map.insertMany entries).get? key =
      (Entries.get? key entries.reverse).or (map.get? key) := by
  induction entries generalizing map with
  | nil => rfl
  | cons entry entries ih =>
      obtain ⟨k, v⟩ := entry
      have hstep : map.insertMany ((k, v) :: entries) = (map.insert k v).insertMany entries := rfl
      rw [hstep, ih, get?_insert, List.reverse_cons, Entries.get?_append, Entries.get?_cons,
        Entries.get?_nil, Option.or_assoc]
      split <;> rfl

/-- A map is made of a list by storing it. -/
theorem ofList_eq_insertMany (entries : List (String × α)) :
    ofList entries = empty.insertMany entries := by
  have hstored (map : Keyed α) : (map.insertMany entries).entries =
      entries.foldl (fun sorted entry => Entries.insert entry.1 entry.2 sorted) map.entries := by
    induction entries generalizing map with
    | nil => rfl
    | cons entry entries ih => exact ih (map.insert entry.1 entry.2)
  apply ext_get?
  intro key
  show Entries.get? key (Entries.ofList entries) =
    Entries.get? key (empty.insertMany entries).entries
  rw [hstored, Entries.ofList]
  rfl

/-- Of the entries of a key the last one is found. -/
theorem get?_ofList (entries : List (String × α)) (key : String) :
    (ofList entries).get? key =
      ((entries.filter fun entry => entry.1 = key).getLast?).map (·.2) := by
  rw [ofList_eq_insertMany, get?_insertMany, get?_empty, Option.or_none, Entries.get?_reverse]

theorem insertMany_append (map : Keyed α) (first second : List (String × α)) :
    map.insertMany (first ++ second) = (map.insertMany first).insertMany second :=
  List.foldl_append

/-- Storing a list once more changes nothing. -/
theorem insertMany_insertMany (map : Keyed α) (entries : List (String × α)) :
    (map.insertMany entries).insertMany entries = map.insertMany entries := by
  apply ext_get?
  intro key
  rw [get?_insertMany, get?_insertMany, ← Option.or_assoc, Option.or_self]

end Keyed

end ClusterEvidence
