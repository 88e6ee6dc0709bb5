import ClusterEvidence.Kubelet.Roles
import ClusterEvidence.Proofs.Keyed
import ClusterEvidence.Proofs.Text.Order
import Mathlib.Data.List.Basic

/-!
# The nodes of every role

The index of a list of nodes holds a role and a node exactly when a node of that name has the role,
in whatever order the nodes are listed and however often a name occurs. One pair is added at a time
(`holds_add`), so the passes over the roles of a node and over the nodes only add pairs.

No role is kept without a node (`Filled`), so the index is determined by its pairs: lists with the
same nodes have the same index.

## Main results

* `mem_pairs_ofNodes_iff` — the pairs of the index of a list of nodes.
* `ne_empty_of_mem_pairs` — every role of the index has a name.
* `ofNodes_congr` — lists with the same nodes have one index.
* `pairwise_pairs` — the pairs are listed by role and then by node, each once.
-/

namespace ClusterEvidence.Kubelet.RoleIndex

variable {index : RoleIndex} {role node : String}

/-- The index lists a node under a role. -/
def Holds (index : RoleIndex) (role node : String) : Prop :=
  ∃ names, index.nodesOf.get? role = some names ∧ names.get? node = some ()

private theorem mem_pairs_iff : (role, node) ∈ index.pairs ↔ index.Holds role node := by
  constructor
  · intro h
    obtain ⟨⟨found, names⟩, hentry, hpair⟩ := List.mem_flatMap.1 h
    obtain ⟨name, hname, heq⟩ := List.mem_map.1 hpair
    obtain ⟨_, hnode⟩ := Keyed.mem_keys_iff.1 hname
    cases heq
    exact ⟨names, (index.nodesOf.mem_entries_iff _ _).1 hentry, hnode⟩
  · rintro ⟨names, hnames, hnode⟩
    have hentry := (index.nodesOf.mem_entries_iff role names).2 hnames
    have hkey := Keyed.mem_keys_iff.2 ⟨(), hnode⟩
    exact List.mem_flatMap.2 ⟨_, hentry, List.mem_map.2 ⟨node, hkey, rfl⟩⟩

/-! ## One pair -/

theorem holds_add (other name : String) :
    (index.add other name).Holds role node ↔
      other = role ∧ name = node ∨ index.Holds role node := by
  by_cases hrole : other = role
  · subst hrole
    have hget : (index.add other name).nodesOf.get? other =
        some (((index.nodesOf.get? other).getD .empty).insert name ()) := by
      rw [add, Keyed.get?_insert, if_pos rfl]
    constructor
    · rintro ⟨names, hnames, hnode⟩
      rw [hget, Option.some.injEq] at hnames
      rw [← hnames, Keyed.get?_insert] at hnode
      by_cases hname : name = node
      · exact .inl ⟨rfl, hname⟩
      · rw [if_neg hname] at hnode
        cases hold : index.nodesOf.get? other with
        | none => simp [hold] at hnode
        | some names => exact .inr ⟨names, hold, by simpa [hold] using hnode⟩
    · intro h
      refine ⟨_, hget, ?_⟩
      rw [Keyed.get?_insert]
      by_cases hname : name = node
      · rw [if_pos hname]
      · rcases h with ⟨_, hsame⟩ | ⟨names, hnames, hnode⟩
        · exact absurd hsame hname
        · rw [if_neg hname, hnames]
          exact hnode
  · have hget : (index.add other name).nodesOf.get? role = index.nodesOf.get? role := by
      rw [add, Keyed.get?_insert, if_neg hrole]
    simp only [Holds, hget, hrole, false_and, false_or]

/-! ## All nodes -/

private theorem holds_addRoles (name : String) (roles : List String) (index : RoleIndex) :
    (roles.foldl (fun index role => index.add role name) index).Holds role node ↔
      role ∈ roles ∧ name = node ∨ index.Holds role node := by
  induction roles generalizing index with
  | nil => simp
  | cons other roles ih =>
      rw [List.foldl_cons, ih, holds_add, List.mem_cons]
      constructor
      · rintro (⟨hmem, hname⟩ | ⟨heq, hname⟩ | hold)
        · exact .inl ⟨.inr hmem, hname⟩
        · exact .inl ⟨.inl heq.symm, hname⟩
        · exact .inr hold
      · rintro (⟨heq | hmem, hname⟩ | hold)
        · exact .inr (.inl ⟨heq.symm, hname⟩)
        · exact .inl ⟨hmem, hname⟩
        · exact .inr (.inr hold)

private theorem holds_addNodes (nodes : List Node) (index : RoleIndex) :
    (nodes.foldl (fun index node =>
      (nodeRoles node).foldl (fun index role => index.add role node.name) index) index).Holds role
        node ↔ (∃ one ∈ nodes, role ∈ nodeRoles one ∧ one.name = node) ∨ index.Holds role node := by
  induction nodes generalizing index with
  | nil => simp
  | cons one nodes ih =>
      rw [List.foldl_cons, ih, holds_addRoles]
      constructor
      · rintro (⟨found, hmem, hfound⟩ | hfirst | hold)
        · exact .inl ⟨found, List.mem_cons_of_mem _ hmem, hfound⟩
        · exact .inl ⟨one, List.mem_cons_self, hfirst⟩
        · exact .inr hold
      · rintro (⟨found, hmem, hfound⟩ | hold)
        · rcases List.mem_cons.1 hmem with rfl | hmem
          · exact .inr (.inl hfound)
          · exact .inl ⟨found, hmem, hfound⟩
        · exact .inr (.inr hold)

/-- The pairs of the index of a list of nodes. -/
theorem mem_pairs_ofNodes_iff {nodes : List Node} :
    (role, node) ∈ (ofNodes nodes).pairs ↔
      ∃ one ∈ nodes, role ∈ nodeRoles one ∧ one.name = node := by
  have hnone : ¬ (RoleIndex.mk .empty).Holds role node := by
    rintro ⟨names, hnames, _⟩
    cases hnames
  rw [mem_pairs_iff, ofNodes, holds_addNodes]
  exact or_iff_left hnone

/-- Every role has a name. -/
theorem ne_empty_of_mem_pairs {nodes : List Node} (h : (role, node) ∈ (ofNodes nodes).pairs) :
    role ≠ "" := by
  obtain ⟨one, _, hrole, _⟩ := mem_pairs_ofNodes_iff.1 h
  obtain ⟨label, _, hlabel⟩ := List.mem_filterMap.1 hrole
  unfold roleOfLabel? at hlabel
  split at hlabel
  · next c rest _ =>
      rw [← Option.some.inj hlabel]
      simp
  · cases hlabel

/-! ## Labels -/

/-- The label that gives a role. -/
private theorem roleOfLabel?_eq_some_iff {label : String} :
    roleOfLabel? label = some role ↔ role ≠ "" ∧ label = "node-role.kubernetes.io/" ++ role := by
  have hlabel : label = "node-role.kubernetes.io/" ++ role ↔
      roleLabelStart.isPrefixOf? label.toList = some role.toList := by
    rw [List.isPrefixOf?_eq_some_iff_append_eq, ← String.toList_inj, String.toList_append]
    exact eq_comm
  rw [hlabel, roleOfLabel?]
  cases hrest : roleLabelStart.isPrefixOf? label.toList with
  | none => simp
  | some rest =>
      have hempty : role ≠ "" ↔ role.toList ≠ [] := by simp
      rw [Option.some.injEq, hempty]
      cases rest with
      | nil =>
          constructor
          · intro h
            cases h
          · rintro ⟨hname, hnil⟩
            exact absurd hnil.symm hname
      | cons c rest =>
          rw [Option.some.injEq, ← String.toList_inj, String.toList_ofList]
          constructor
          · intro h
            exact ⟨h ▸ List.cons_ne_nil _ _, h⟩
          · exact And.right

/-- A node has the roles of its labels, each of them with a name. -/
theorem mem_nodeRoles_iff {one : Node} :
    role ∈ nodeRoles one ↔
      role ≠ "" ∧ ∃ value, one.labels.get? ("node-role.kubernetes.io/" ++ role) = some value := by
  rw [nodeRoles, List.mem_filterMap]
  constructor
  · rintro ⟨label, hlabel, hrole⟩
    obtain ⟨hname, rfl⟩ := roleOfLabel?_eq_some_iff.1 hrole
    exact ⟨hname, Keyed.mem_keys_iff.1 hlabel⟩
  · rintro ⟨hname, hlabel⟩
    exact ⟨_, Keyed.mem_keys_iff.2 hlabel, roleOfLabel?_eq_some_iff.2 ⟨hname, rfl⟩⟩

/-! ## The index is its pairs -/

/-- Every role of the index has a node. -/
def Filled (index : RoleIndex) : Prop :=
  ∀ role names, index.nodesOf.get? role = some names → ∃ node, index.Holds role node

private theorem Filled.add (h : index.Filled) (other name : String) :
    (index.add other name).Filled := by
  intro role names hnames
  by_cases hrole : other = role
  · exact ⟨name, (holds_add other name).2 (.inl ⟨hrole, rfl⟩)⟩
  · rw [RoleIndex.add, Keyed.get?_insert, if_neg hrole] at hnames
    obtain ⟨node, hnode⟩ := h role names hnames
    exact ⟨node, (holds_add other name).2 (.inr hnode)⟩

private theorem filled_ofNodes (nodes : List Node) : (ofNodes nodes).Filled := by
  refine List.foldlRecOn nodes _ ?_ fun index hindex one _ => ?_
  · intro role names hnames
    cases hnames
  · exact List.foldlRecOn (nodeRoles one) _ hindex fun index hindex role _ =>
      hindex.add role one.name

/-- The nodes of a role are those of any other index with the same pairs. -/
private theorem Filled.get?_of_holds_iff {other : RoleIndex} (h : index.Filled)
    (hsame : ∀ role node, index.Holds role node ↔ other.Holds role node) {names : Keyed Unit}
    (hnames : index.nodesOf.get? role = some names) : other.nodesOf.get? role = some names := by
  obtain ⟨node, hnode⟩ := h role names hnames
  obtain ⟨names', hnames', _⟩ := (hsame role node).1 hnode
  rw [hnames']
  refine congrArg some (Keyed.ext_get? fun node => Option.ext fun _ => ?_)
  have hholds : index.Holds role node ↔ names.get? node = some () := by
    simp [Holds, hnames]
  have hholds' : other.Holds role node ↔ names'.get? node = some () := by
    simp [Holds, hnames']
  exact (hholds'.symm.trans (hsame role node).symm).trans hholds

/-- Two indexes with the same pairs are equal. -/
private theorem eq_of_holds_iff {other : RoleIndex} (h : index.Filled) (h' : other.Filled)
    (hsame : ∀ role node, index.Holds role node ↔ other.Holds role node) : index = other := by
  have hnodes : index.nodesOf = other.nodesOf := by
    refine Keyed.ext_get? fun role => Option.ext fun names => ⟨?_, ?_⟩
    · exact h.get?_of_holds_iff hsame
    · exact h'.get?_of_holds_iff fun role node => (hsame role node).symm
  cases index
  cases other
  exact congrArg RoleIndex.mk hnodes

/-- Lists with the same nodes have one index, whatever the order of the nodes and however often
each is listed. -/
theorem ofNodes_congr {nodes others : List Node} (h : ∀ one, one ∈ others ↔ one ∈ nodes) :
    ofNodes others = ofNodes nodes := by
  refine eq_of_holds_iff (filled_ofNodes others) (filled_ofNodes nodes) fun role node => ?_
  rw [← mem_pairs_iff, ← mem_pairs_iff, mem_pairs_ofNodes_iff, mem_pairs_ofNodes_iff]
  simp only [h]

/-! ## The order of the pairs -/

/-- The pairs are listed by role and then by node, each once. -/
theorem pairwise_pairs (index : RoleIndex) : index.pairs.Pairwise Text.PairLt := by
  rw [pairs, List.pairwise_flatMap]
  constructor
  · intro entry _
    have hsorted : entry.2.entries.Pairwise fun a b => a.1 < b.1 := entry.2.sorted
    rw [Keyed.keys, Entries.keys, List.map_map, List.pairwise_map]
    refine hsorted.imp ?_
    intro a b hlt
    exact Text.pairLt_iff.2 (.inr ⟨rfl, hlt⟩)
  · refine index.nodesOf.sorted.imp fun hlt first hfirst second hsecond => ?_
    obtain ⟨_, _, rfl⟩ := List.mem_map.1 hfirst
    obtain ⟨_, _, rfl⟩ := List.mem_map.1 hsecond
    exact Text.pairLt_iff.2 (.inl hlt)

end ClusterEvidence.Kubelet.RoleIndex
