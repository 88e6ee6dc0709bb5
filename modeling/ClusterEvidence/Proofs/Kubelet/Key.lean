import ClusterEvidence.Kubelet.Key
import ClusterEvidence.Proofs.Text.Splitting
import Mathlib.Data.List.Basic

/-!
# Keys stand for one role and one node

A key that is read back as a role and a node was made of these two, and a role's own key is never
read back as a node's. So no two nodes of a role share a key.

A role and a node without slashes are read back from their key, unless the role is called `role`:
the key of a node of that role is the key of the role that is called like the node.

## Main results

* `nodeKey_injective` — the nodes of roles without slashes have keys of their own.
* `eq_of_nodeKey_eq_roleKey` — where the key of a node is that of a role.
* `ofNodeKey?_eq_some_iff` — which keys are read back as a role and a node.
* `eq_nodeKey` — a key that is read back is the key of what it is read as.
* `ofNodeKey?_roleKey` — the key of a role is no node's.
* `keys_decodeExactly` — what every key of a node or a role is read back as.
-/

namespace ClusterEvidence.Kubelet

variable {key role node other name : String}

private theorem toList_nodeKey (role node : String) :
    (nodeKey role node).toList = keyStart ++ (role.toList ++ '/' :: node.toList) := by
  rw [nodeKey, String.toList_ofList, List.append_assoc]

private theorem toList_roleKey (role : String) :
    (roleKey role).toList = roleKeyStart ++ role.toList := by
  rw [roleKey, String.toList_ofList]

/-- Roles with one key are the same. -/
theorem roleKey_injective (h : roleKey role = roleKey other) : role = other := by
  have hlist := congrArg String.toList h
  rw [toList_roleKey, toList_roleKey, List.append_cancel_left_eq] at hlist
  exact String.toList_inj.1 hlist

/-- What two keys of nodes say behind their first part. -/
private theorem append_cons_eq_of_nodeKey_eq (h : nodeKey role node = nodeKey other name) :
    role.toList ++ '/' :: node.toList = other.toList ++ '/' :: name.toList := by
  have hlist := congrArg String.toList h
  rwa [toList_nodeKey, toList_nodeKey, List.append_cancel_left_eq] at hlist

/-- Where two roles have no slashes, the keys of their nodes are the same for one role and one node
only, whatever the names of the nodes. -/
theorem nodeKey_injective (hrole : '/' ∉ role.toList) (hother : '/' ∉ other.toList)
    (h : nodeKey role node = nodeKey other name) : role = other ∧ node = name := by
  obtain ⟨hfirst, hrest⟩ :=
    Text.eq_of_append_cons_eq hrole hother (append_cons_eq_of_nodeKey_eq h)
  exact ⟨String.toList_inj.1 hfirst, String.toList_inj.1 hrest⟩

/-- The key of a role and a node without slashes is that of no other two. -/
theorem eq_of_nodeKey_eq (hrole : '/' ∉ role.toList) (hnode : '/' ∉ node.toList)
    (h : nodeKey other name = nodeKey role node) : other = role ∧ name = node := by
  -- There is one slash behind the first part of the key, so the other role holds none either.
  have hcount := congrArg (List.count '/') (append_cons_eq_of_nodeKey_eq h)
  rw [List.count_append, List.count_append, List.count_cons_self, List.count_cons_self,
    List.count_eq_zero.2 hrole, List.count_eq_zero.2 hnode] at hcount
  have hother : '/' ∉ other.toList := List.count_eq_zero.1 (by omega)
  exact nodeKey_injective hother hrole h

/-! ## The reserved role -/

/-- The name of a role whose nodes have the keys of roles. -/
def reservedRole : String := "role"

theorem roleKey_eq (role : String) : roleKey role = nodeKey reservedRole role := by
  have hstart : roleKeyStart = keyStart ++ reservedRole.toList ++ ['/'] := by decide
  rw [roleKey, nodeKey, hstart, List.append_assoc]
  rfl

/-- Where the key of a node is that of a role without slashes, the node's role is the reserved
one. -/
theorem eq_of_nodeKey_eq_roleKey (hother : '/' ∉ other.toList)
    (h : nodeKey role node = roleKey other) : role = reservedRole ∧ node = other := by
  rw [roleKey_eq] at h
  exact eq_of_nodeKey_eq (by decide) hother h

/-- The key of a node of a role without slashes begins like that of a role when its role is the
reserved one. -/
private theorem roleKeyStart_prefix_nodeKey_iff (hrole : '/' ∉ role.toList) :
    roleKeyStart <+: (nodeKey role node).toList ↔ role = reservedRole := by
  constructor
  · intro h
    obtain ⟨rest, hrest⟩ := h
    have hsame : nodeKey role node = nodeKey reservedRole (String.ofList rest) := by
      rw [← roleKey_eq, roleKey, String.toList_ofList, hrest, String.ofList_toList]
    exact (nodeKey_injective hrole (by decide) hsame).1
  · intro h
    rw [h, ← roleKey_eq, toList_roleKey]
    exact List.prefix_append _ _

/-! ## Reading back -/

/-- What it takes for a key to be read back. -/
private theorem ofNodeKey?_eq_some_iff_pieces :
    ofNodeKey? key = some (role, node) ↔ ¬ roleKeyStart <+: key.toList ∧
      ∃ rest, key.toList = keyStart ++ rest ∧
        Text.splitOn '/' rest = [role.toList, node.toList] := by
  unfold ofNodeKey?
  rw [← List.isPrefixOf_iff_prefix]
  by_cases hstart : roleKeyStart.isPrefixOf key.toList
  · simp [hstart]
  · rw [if_neg hstart]
    cases hrest : keyStart.isPrefixOf? key.toList with
    | none =>
        have hnone : ∀ rest, key.toList ≠ keyStart ++ rest := by
          intro rest hkey
          rw [hkey, List.isPrefixOf?_eq_some_iff_append_eq.2 rfl] at hrest
          cases hrest
        simp [hnone]
    | some rest =>
        have hkey := (List.isPrefixOf?_eq_some_iff_append_eq.1 hrest).symm
        dsimp only
        constructor
        · intro h
          split at h
          · next first second hpieces =>
              simp only [Option.some.injEq, Prod.mk.injEq] at h
              obtain ⟨rfl, rfl⟩ := h
              refine ⟨hstart, rest, hkey, ?_⟩
              rw [hpieces, String.toList_ofList, String.toList_ofList]
          · cases h
        · intro h
          obtain ⟨-, other, hother, hpieces⟩ := h
          obtain rfl : rest = other := List.append_cancel_left (hkey.symm.trans hother)
          simp only [hpieces, String.ofList_toList]

/-- A key is read back as a role and a node exactly when it is the key of the two, neither holds a
slash, and the role is not the reserved one. -/
theorem ofNodeKey?_eq_some_iff :
    ofNodeKey? key = some (role, node) ↔
      key = nodeKey role node ∧ '/' ∉ role.toList ∧ '/' ∉ node.toList ∧ role ≠ reservedRole := by
  rw [ofNodeKey?_eq_some_iff_pieces]
  constructor
  · intro h
    obtain ⟨hstart, rest, hrest, hpieces⟩ := h
    obtain ⟨rfl, hrole, hnode⟩ := Text.splitOn_eq_pair_iff.1 hpieces
    have hkey : key = nodeKey role node := by
      rw [← String.toList_inj, hrest, toList_nodeKey]
    rw [hkey, roleKeyStart_prefix_nodeKey_iff hrole] at hstart
    exact ⟨hkey, hrole, hnode, hstart⟩
  · intro h
    obtain ⟨rfl, hrole, hnode, hreserved⟩ := h
    rw [roleKeyStart_prefix_nodeKey_iff hrole]
    exact ⟨hreserved, _, toList_nodeKey role node,
      Text.splitOn_eq_pair_iff.2 ⟨rfl, hrole, hnode⟩⟩

/-- A key that is read back is the key of what it is read as. -/
theorem eq_nodeKey (h : ofNodeKey? key = some (role, node)) : key = nodeKey role node :=
  (ofNodeKey?_eq_some_iff.1 h).1

/-- The key of a role is no node's. -/
theorem ofNodeKey?_roleKey (role : String) : ofNodeKey? (roleKey role) = none := by
  simp [ofNodeKey?, roleKey]

/-- The key of a node is read back as the node and its role, or not at all. -/
private theorem ofNodeKey?_nodeKey (role node : String) :
    ofNodeKey? (nodeKey role node) =
      if role ≠ reservedRole ∧ '/' ∉ role.toList ∧ '/' ∉ node.toList then some (role, node)
      else none := by
  split
  · next h => exact ofNodeKey?_eq_some_iff.2 ⟨rfl, h.2.1, h.2.2, h.1⟩
  · next h =>
      rw [Option.eq_none_iff_forall_ne_some]
      intro entry hentry
      -- What is read back has the same key and no slashes, so it is this role and this node.
      obtain ⟨hkey, hother, hname, hreserved⟩ := ofNodeKey?_eq_some_iff.1 hentry
      obtain ⟨hsame, hsame'⟩ := eq_of_nodeKey_eq hother hname hkey
      exact h ⟨hsame ▸ hreserved, hsame ▸ hother, hsame' ▸ hname⟩

/-- The key of a node is read back as its role and the node, unless one of them holds a slash or the
role is the reserved one; every key that is read back is made of what it is read as; and the key of
a role is not read back. -/
theorem keys_decodeExactly :
    (∀ role node, ofNodeKey? (nodeKey role node) =
      if role ≠ reservedRole ∧ '/' ∉ role.toList ∧ '/' ∉ node.toList then some (role, node)
      else none) ∧
    (∀ key role node, ofNodeKey? key = some (role, node) → key = nodeKey role node) ∧
    ∀ role, ofNodeKey? (roleKey role) = none :=
  ⟨ofNodeKey?_nodeKey, fun _ _ _ => eq_nodeKey, ofNodeKey?_roleKey⟩

-- A role may be empty, and may begin like the reserved one.
example : ofNodeKey? "/kubeletconfig//w0" = some ("", "w0") ∧
    ofNodeKey? "/kubeletconfig/roles/w0" = some ("roles", "w0") := by
  decide

end ClusterEvidence.Kubelet
