/-!
# Entries sorted by key

Results, labels, variables and the members of a JSON object are all maps from strings, and each of
them is shown in key order. They are kept as the list that is shown: entries strictly sorted by
key. The order of strings is the order of their code points, which is also the byte order of their
UTF-8 forms.

`Entries` holds the operations on the bare list, for use inside a recursive type; `Keyed` carries
the order as a field. Two maps that answer every look-up alike are equal (`Keyed.ext_get?`).

## Main results

* `Entries.get?_insert`, `Entries.get?_erase` — each update is seen at its key and nowhere else.
* `Entries.Sorted.insert`, `Entries.Sorted.erase` — updates keep the order.
* `Keyed.ext_get?` — a map is its look-ups.
-/

namespace ClusterEvidence

variable {α β : Type}

/-! ## Order of keys -/

/-- Of two different keys one comes first. -/
theorem key_lt_of_not_lt {a b : String} (hne : a ≠ b) (h : ¬ a < b) : b < a := by
  by_cases hba : b < a
  · exact hba
  · exact absurd (String.le_antisymm (String.not_lt.1 hba) (String.not_lt.1 h)) hne

namespace Entries

/-! ## Operations on the list -/

/-- The value of the first entry with this key. -/
def get? (key : String) : List (String × α) → Option α
  | [] => none
  | (k, v) :: entries => if k = key then some v else get? key entries

/-- Puts an entry in its place, instead of the one with the same key if there is one. -/
def insert (key : String) (value : α) : List (String × α) → List (String × α)
  | [] => [(key, value)]
  | (k, v) :: entries =>
      if key < k then (key, value) :: (k, v) :: entries
      else if k = key then (key, value) :: entries
      else (k, v) :: insert key value entries

/-- Drops the entries with this key. -/
def erase (key : String) (entries : List (String × α)) : List (String × α) :=
  entries.filter (·.1 ≠ key)

/-- Inserts entries one after another, so that the last of a key wins. -/
def ofList (entries : List (String × α)) : List (String × α) :=
  entries.foldl (fun sorted entry => insert entry.1 entry.2 sorted) []

/-- The keys, in order. -/
def keys (entries : List (String × α)) : List String := entries.map (·.1)

/-! ## Look-ups after an update -/

@[simp] theorem get?_nil (key : String) : get? key ([] : List (String × α)) = none := rfl

theorem get?_cons (key k : String) (v : α) (entries : List (String × α)) :
    get? key ((k, v) :: entries) = if k = key then some v else get? key entries := rfl

/-- An inserted entry is found under its key; every other key keeps its value. -/
theorem get?_insert (key other : String) (value : α) (entries : List (String × α)) :
    get? other (insert key value entries) =
      if key = other then some value else get? other entries := by
  induction entries with
  | nil => rfl
  | cons entry entries ih =>
      obtain ⟨k, v⟩ := entry
      rw [insert]
      split
      · rfl
      · split
        · next hk => subst hk; by_cases h : k = other <;> simp [get?_cons, h]
        · next hk =>
            rw [get?_cons, ih, get?_cons]
            by_cases h : k = other
            · subst h; simp [Ne.symm hk]
            · simp [h]

theorem get?_insert_self (key : String) (value : α) (entries : List (String × α)) :
    get? key (insert key value entries) = some value := by
  simp [get?_insert]

theorem get?_insert_ne {key other : String} (h : key ≠ other) (value : α)
    (entries : List (String × α)) : get? other (insert key value entries) = get? other entries := by
  simp [get?_insert, h]

/-- An erased key is not found; every other key keeps its value. -/
theorem get?_erase (key other : String) (entries : List (String × α)) :
    get? other (erase key entries) = if key = other then none else get? other entries := by
  induction entries with
  | nil => simp [erase]
  | cons entry entries ih =>
      obtain ⟨k, v⟩ := entry
      simp only [erase] at ih ⊢
      by_cases hk : k = key
      · subst hk
        rw [List.filter_cons_of_neg (by simp), ih, get?_cons]
        by_cases h : k = other <;> simp [h]
      · rw [List.filter_cons_of_pos (by simpa using hk), get?_cons, ih, get?_cons]
        by_cases h : k = other
        · subst h; simp [Ne.symm hk]
        · simp [h]

/-! ## The order -/

/-- Strictly sorted by key; no key occurs twice. -/
def Sorted (entries : List (String × α)) : Prop := entries.Pairwise (fun a b => a.1 < b.1)

theorem Sorted.nil : Sorted ([] : List (String × α)) := List.Pairwise.nil

/-- A key is inserted next to keys that were there already. -/
theorem key_of_mem_insert {key : String} {value : α} {entry : String × α}
    {entries : List (String × α)} (h : entry ∈ insert key value entries) :
    entry = (key, value) ∨ entry ∈ entries := by
  induction entries with
  | nil => simpa [insert] using h
  | cons first entries ih =>
      obtain ⟨k, v⟩ := first
      rw [insert] at h
      split at h
      · simpa using h
      · split at h
        · rcases List.mem_cons.1 h with h | h
          · exact .inl h
          · exact .inr (List.mem_cons_of_mem _ h)
        · rcases List.mem_cons.1 h with h | h
          · exact .inr (h ▸ List.mem_cons_self)
          · exact (ih h).imp id (List.mem_cons_of_mem _)

/-- Inserting keeps the order. -/
theorem Sorted.insert {entries : List (String × α)} (h : Sorted entries) (key : String)
    (value : α) : Sorted (Entries.insert key value entries) := by
  induction entries with
  | nil => simp [Entries.insert, Sorted]
  | cons first entries ih =>
      obtain ⟨k, v⟩ := first
      obtain ⟨hfirst, hrest⟩ := List.pairwise_cons.1 h
      rw [Entries.insert]
      split
      · next hlt =>
          refine List.pairwise_cons.2 ⟨fun entry hentry => ?_, h⟩
          rcases List.mem_cons.1 hentry with rfl | hentry
          · exact hlt
          · exact String.lt_trans hlt (hfirst entry hentry)
      · next hlt =>
          split
          · next heq => subst heq; exact List.pairwise_cons.2 ⟨hfirst, hrest⟩
          · next hne =>
              refine List.pairwise_cons.2 ⟨fun entry hentry => ?_, ih hrest⟩
              rcases key_of_mem_insert hentry with rfl | hentry
              · exact key_lt_of_not_lt (Ne.symm hne) hlt
              · exact hfirst entry hentry

/-- Erasing keeps the order. -/
theorem Sorted.erase {entries : List (String × α)} (h : Sorted entries) (key : String) :
    Sorted (Entries.erase key entries) :=
  List.Pairwise.sublist List.filter_sublist h

/-- Changing values keeps the order. -/
private theorem Sorted.mapValues {entries : List (String × α)} (h : Sorted entries)
    (f : String → α → β) :
    Sorted (entries.map fun entry => (entry.1, f entry.1 entry.2)) :=
  List.Pairwise.map _ (fun _ _ hlt => hlt) h

/-- Any list becomes sorted by insertion. -/
private theorem sorted_ofList (entries : List (String × α)) : Sorted (ofList entries) := by
  suffices ∀ sorted : List (String × α), Sorted sorted →
      Sorted (entries.foldl (fun sorted entry => Entries.insert entry.1 entry.2 sorted) sorted) from
    this [] .nil
  induction entries with
  | nil => exact fun _ h => h
  | cons entry entries ih => exact fun sorted h => ih _ (h.insert _ _)

/-! ## A sorted list is its look-ups -/

/-- A value that is found stands in the list. -/
theorem mem_of_get? {key : String} {value : α} {entries : List (String × α)}
    (h : get? key entries = some value) : (key, value) ∈ entries := by
  induction entries with
  | nil => simp at h
  | cons entry entries ih =>
      obtain ⟨k, v⟩ := entry
      rw [get?_cons] at h
      split at h
      · next hk => simp_all
      · exact List.mem_cons_of_mem _ (ih h)

/-- An entry of a sorted list is the one its key finds. -/
theorem Sorted.get?_eq_some_iff {entries : List (String × α)} (h : Sorted entries) {key : String}
    {value : α} : get? key entries = some value ↔ (key, value) ∈ entries := by
  refine ⟨mem_of_get?, fun hmem => ?_⟩
  induction entries with
  | nil => simp at hmem
  | cons entry entries ih =>
      obtain ⟨k, v⟩ := entry
      obtain ⟨hfirst, hrest⟩ := List.pairwise_cons.1 h
      rw [get?_cons]
      rcases List.mem_cons.1 hmem with heq | hmem
      · simp_all
      · have hlt : k < key := hfirst _ hmem
        have hne : k ≠ key := fun heq => String.lt_irrefl _ (heq ▸ hlt)
        simpa [hne] using ih hrest hmem

/-- Two sorted lists with the same look-ups are equal. -/
theorem Sorted.ext {a b : List (String × α)} (ha : Sorted a) (hb : Sorted b)
    (h : ∀ key, get? key a = get? key b) : a = b := by
  have hmem : ∀ entry, entry ∈ a ↔ entry ∈ b := fun entry => by
    rw [← ha.get?_eq_some_iff, ← hb.get?_eq_some_iff, h]
  clear h
  induction a generalizing b with
  | nil =>
      cases b with
      | nil => rfl
      | cons entry b => exact absurd ((hmem entry).2 List.mem_cons_self) (by simp)
  | cons x a ih =>
      cases b with
      | nil => exact absurd ((hmem x).1 List.mem_cons_self) (by simp)
      | cons y b =>
          obtain ⟨hx, ha'⟩ := List.pairwise_cons.1 ha
          obtain ⟨hy, hb'⟩ := List.pairwise_cons.1 hb
          have hxy : x = y := by
            rcases List.mem_cons.1 ((hmem x).1 List.mem_cons_self) with heq | hin
            · exact heq
            · rcases List.mem_cons.1 ((hmem y).2 List.mem_cons_self) with heq | hin'
              · exact heq.symm
              · exact absurd (String.lt_trans (hy x hin) (hx y hin')) (String.lt_irrefl _)
          subst hxy
          refine congrArg _ (ih ha' hb' fun entry => ⟨fun hin => ?_, fun hin => ?_⟩)
          · rcases List.mem_cons.1 ((hmem entry).1 (List.mem_cons_of_mem _ hin)) with heq | hin'
            · exact absurd (heq ▸ hx entry hin) (String.lt_irrefl _)
            · exact hin'
          · rcases List.mem_cons.1 ((hmem entry).2 (List.mem_cons_of_mem _ hin)) with heq | hin'
            · exact absurd (heq ▸ hy entry hin) (String.lt_irrefl _)
            · exact hin'

end Entries

/-! ## The map -/

/-- A map from strings, in key order. -/
structure Keyed (α : Type) where
  /-- The entries, from the least key to the greatest. -/
  entries : List (String × α)
  sorted : Entries.Sorted entries

namespace Keyed

/-- The map without entries. -/
def empty : Keyed α := ⟨[], .nil⟩

instance : EmptyCollection (Keyed α) := ⟨empty⟩

instance : Inhabited (Keyed α) := ⟨empty⟩

/-- The value under a key. -/
def get? (map : Keyed α) (key : String) : Option α := Entries.get? key map.entries

/-- Whether a key has a value. -/
def contains (map : Keyed α) (key : String) : Bool := (map.get? key).isSome

/-- The map with one more entry, which takes the place of one with the same key. -/
def insert (map : Keyed α) (key : String) (value : α) : Keyed α :=
  ⟨Entries.insert key value map.entries, map.sorted.insert key value⟩

/-- The map of a list of entries; the last entry of a key wins. -/
def ofList (entries : List (String × α)) : Keyed α :=
  ⟨Entries.ofList entries, Entries.sorted_ofList entries⟩

/-- The map with every value changed by a function of its key and itself. -/
def mapValues (map : Keyed α) (f : String → α → β) : Keyed β :=
  ⟨map.entries.map fun entry => (entry.1, f entry.1 entry.2), map.sorted.mapValues f⟩

/-- The keys, from the least to the greatest. -/
def keys (map : Keyed α) : List String := Entries.keys map.entries

/-- The number of entries. -/
def size (map : Keyed α) : Nat := map.entries.length

/-- Whether there is no entry. -/
def isEmpty (map : Keyed α) : Bool := map.entries.isEmpty

/-- The map with the entries of a list added, the later over the earlier. -/
def insertMany (map : Keyed α) (entries : List (String × α)) : Keyed α :=
  entries.foldl (fun map entry => map.insert entry.1 entry.2) map

/-- A map is its look-ups. -/
theorem ext_get? {a b : Keyed α} (h : ∀ key, a.get? key = b.get? key) : a = b := by
  obtain ⟨a, ha⟩ := a
  obtain ⟨b, hb⟩ := b
  simp only [Keyed.mk.injEq]
  exact ha.ext hb h

@[simp] theorem get?_empty (key : String) : (empty : Keyed α).get? key = none := rfl

theorem get?_insert (map : Keyed α) (key other : String) (value : α) :
    (map.insert key value).get? other = if key = other then some value else map.get? other :=
  Entries.get?_insert key other value map.entries

/-- The entries of a map are what its keys find. -/
theorem mem_entries_iff (map : Keyed α) (key : String) (value : α) :
    (key, value) ∈ map.entries ↔ map.get? key = some value :=
  map.sorted.get?_eq_some_iff.symm

end Keyed

end ClusterEvidence
