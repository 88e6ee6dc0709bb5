import ClusterEvidence.Kubelet.Reconcile
import ClusterEvidence.Proofs.Keyed
import ClusterEvidence.Proofs.Kubelet.Key

/-!
# The bodies of the nodes of each role

Grouping goes through the results once and puts every body under the role and the node of its key.
What matters about the groups is which body stands for a role and a node (`bodyIn?`); one entry
changes that for its own role and node only, and the whole pass makes it the body of the results
under the key of the two.

## Main results

* `bodyIn?_byRole_eq_some_iff` — a body is grouped exactly when the results hold it under a key of
  its role and node.
* `byRole_insertMany` — entries under keys of no node do not matter to the groups.
-/

namespace ClusterEvidence.Kubelet

/-- Takes one entry of the results into the groups. -/
def addToGroups (groups : Keyed (Keyed Bytes)) (entry : String × Bytes) : Keyed (Keyed Bytes) :=
  match ofNodeKey? entry.1 with
  | some (role, node) =>
      if role = "" then groups
      else groups.insert role (((groups.get? role).getD .empty).insert node entry.2)
  | none => groups

private theorem byRole_eq_foldl (results : Keyed Bytes) :
    byRole results = results.entries.foldl addToGroups .empty := rfl

/-- The body of a node in the group of a role. -/
def bodyIn? (groups : Keyed (Keyed Bytes)) (role node : String) : Option Bytes :=
  (groups.get? role).bind (·.get? node)

/-- Whether an entry belongs to a node of a role. -/
def BelongsTo (role node : String) (key : String) : Prop :=
  role ≠ "" ∧ ofNodeKey? key = some (role, node)

/-- No two keys belong to one node of a role. -/
theorem BelongsTo.unique {role node key other : String} (h : BelongsTo role node key)
    (h' : BelongsTo role node other) : key = other :=
  (eq_nodeKey h.2).trans (eq_nodeKey h'.2).symm

/-- An entry becomes the body of the node to which it belongs. -/
private theorem bodyIn?_addToGroups_self {role node : String} {entry : String × Bytes}
    (h : BelongsTo role node entry.1) (groups : Keyed (Keyed Bytes)) :
    bodyIn? (addToGroups groups entry) role node = some entry.2 := by
  simp [addToGroups, h.2, h.1, bodyIn?, Keyed.get?_insert]

/-- Every other node keeps its body. -/
private theorem bodyIn?_addToGroups_of_not {role node : String} {entry : String × Bytes}
    (h : ¬ BelongsTo role node entry.1) (groups : Keyed (Keyed Bytes)) :
    bodyIn? (addToGroups groups entry) role node = bodyIn? groups role node := by
  unfold addToGroups
  split
  · next other name hkey =>
      split
      · rfl
      · next hother =>
          simp only [bodyIn?, Keyed.get?_insert]
          split
          · next heq =>
              subst heq
              have hname : name ≠ node := fun heq => h ⟨hother, heq ▸ hkey⟩
              cases groups.get? other <;> simp [Keyed.get?_insert, hname]
          · rfl
  · rfl

/-- An entry of no node is not taken in. -/
private theorem addToGroups_of_none {key : String} (h : ofNodeKey? key = none)
    (groups : Keyed (Keyed Bytes)) (body : Bytes) : addToGroups groups (key, body) = groups := by
  rw [addToGroups, h]

/-- After a list of entries, a body is the last one that was taken in or was there before. -/
private theorem bodyIn?_foldl {role node : String} {entries : List (String × Bytes)}
    (hsorted : Entries.Sorted entries) (groups : Keyed (Keyed Bytes)) (body : Bytes) :
    bodyIn? (entries.foldl addToGroups groups) role node = some body ↔
      (∃ key, BelongsTo role node key ∧ (key, body) ∈ entries) ∨
        ((∀ entry ∈ entries, ¬ BelongsTo role node entry.1) ∧
          bodyIn? groups role node = some body) := by
  induction entries generalizing groups with
  | nil => simp
  | cons entry entries ih =>
      obtain ⟨hfirst, hrest⟩ := List.pairwise_cons.1 hsorted
      rw [List.foldl_cons, ih hrest]
      by_cases hentry : BelongsTo role node entry.1
      · have hnone : ∀ other ∈ entries, ¬ BelongsTo role node other.1 := fun other hother hsame =>
          String.lt_irrefl _ (hentry.unique hsame ▸ hfirst other hother)
        rw [bodyIn?_addToGroups_self hentry]
        constructor
        · rintro (⟨key, hkey, hmem⟩ | ⟨_, heq⟩)
          · exact absurd hkey (hnone _ hmem)
          · cases heq
            exact .inl ⟨entry.1, hentry, List.mem_cons_self⟩
        · rintro (⟨key, hkey, hmem⟩ | ⟨hall, _⟩)
          · rcases List.mem_cons.1 hmem with rfl | hmem
            · exact .inr ⟨hnone, rfl⟩
            · exact absurd hkey (hnone _ hmem)
          · exact absurd hentry (hall entry List.mem_cons_self)
      · rw [bodyIn?_addToGroups_of_not hentry]
        constructor
        · rintro (⟨key, hkey, hmem⟩ | ⟨hall, hbody⟩)
          · exact .inl ⟨key, hkey, List.mem_cons_of_mem _ hmem⟩
          · exact .inr ⟨List.forall_mem_cons.2 ⟨hentry, hall⟩, hbody⟩
        · rintro (⟨key, hkey, hmem⟩ | ⟨hall, hbody⟩)
          · rcases List.mem_cons.1 hmem with rfl | hmem
            · exact absurd hkey hentry
            · exact .inl ⟨key, hkey, hmem⟩
          · exact .inr ⟨(List.forall_mem_cons.1 hall).2, hbody⟩

/-- A body is grouped exactly when the results hold it under a key of its role and node. -/
theorem bodyIn?_byRole_eq_some_iff {results : Keyed Bytes} {role node : String} {body : Bytes} :
    bodyIn? (byRole results) role node = some body ↔
      ∃ key, BelongsTo role node key ∧ results.get? key = some body := by
  rw [byRole_eq_foldl, bodyIn?_foldl results.sorted]
  simp only [Keyed.mem_entries_iff]
  simp [bodyIn?]

/-! ## Entries of no node -/

private theorem foldl_addToGroups_insert {key : String} (h : ofNodeKey? key = none) (body : Bytes)
    (entries : List (String × Bytes)) (groups : Keyed (Keyed Bytes)) :
    (Entries.insert key body entries).foldl addToGroups groups =
      entries.foldl addToGroups groups := by
  induction entries generalizing groups with
  | nil => exact addToGroups_of_none h groups body
  | cons entry entries ih =>
      obtain ⟨k, v⟩ := entry
      rw [Entries.insert]
      split
      · rw [List.foldl_cons, addToGroups_of_none h]
      · split
        · next heq =>
            subst heq
            rw [List.foldl_cons, List.foldl_cons, addToGroups_of_none h, addToGroups_of_none h]
        · rw [List.foldl_cons, List.foldl_cons, ih]

/-- Entries of no node leave the groups as they are, also where they replace others. -/
theorem byRole_insertMany {entries : List (String × Bytes)}
    (h : ∀ entry ∈ entries, ofNodeKey? entry.1 = none) (results : Keyed Bytes) :
    byRole (results.insertMany entries) = byRole results := by
  induction entries generalizing results with
  | nil => rfl
  | cons entry entries ih =>
      show byRole ((results.insert entry.1 entry.2).insertMany entries) = byRole results
      rw [ih (fun other hother => h other (List.mem_cons_of_mem _ hother)), byRole_eq_foldl,
        byRole_eq_foldl]
      exact foldl_addToGroups_insert (h entry List.mem_cons_self) entry.2 results.entries .empty

end ClusterEvidence.Kubelet
