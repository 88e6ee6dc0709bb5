import ClusterEvidence.Json.Pointer
import ClusterEvidence.Proofs.Text.Splitting

/-!
# Pointers as lists of keys

A pointer that was built by going from member to member is read back as the keys on the way,
whatever characters they hold: a key is escaped before it is appended, so that the only slashes of
the pointer are those that were put between the keys.

## Main results

* `keys_child`, `keys_extend` — the pointer to a member has one key more, and the pointer to a
  nested one has all keys on the way.
* `unescape_eq_substitute` — unescaping is two substitutions, first of `~1` and then of `~0`.
-/

namespace ClusterEvidence

namespace Json.Pointer

/-! ## The keys of a pointer -/

/-- The empty pointer has no key. -/
theorem keys_empty : keys "" = [] := rfl

/-- The pointer to a member has one key more. -/
theorem keys_child (path key : String) : keys (child path key) = keys path ++ [key] := by
  have hpieces : Text.splitOn '/' (child path key).toList =
      Text.splitOn '/' path.toList ++ [escape key.toList] := by
    rw [child, String.toList_append, String.toList_ofList, Text.splitOn_append_cons,
      Text.splitOn_of_not_mem (slash_not_mem_escape key.toList)]
  have hlength : 1 ≤ (Text.splitOn '/' path.toList).length :=
    List.length_pos_iff.2 (Text.splitWhen_ne_nil _ _)
  rw [keys, hpieces, List.drop_append_of_le_length hlength, List.map_append]
  simp [keys, unescape_escape]

/-- The pointer to the place that keys lead to from the place of another pointer. -/
def extend (path : String) (place : List String) : String := place.foldl child path

/-- A pointer is extended by the keys it is extended with. -/
theorem keys_extend (path : String) (place : List String) :
    keys (extend path place) = keys path ++ place := by
  induction place generalizing path with
  | nil => exact (List.append_nil _).symm
  | cons key place ih =>
      show keys (extend (child path key) place) = keys path ++ key :: place
      rw [ih, keys_child, List.append_assoc]
      rfl

/-! ## Unescaping by substitution -/

/-- A text with a character put for every tilde that a mark follows. -/
def substitute (mark original : Char) : List Char → List Char
  | [] => []
  | [c] => [c]
  | c :: d :: text =>
      if c = '~' ∧ d = mark then original :: substitute mark original text
      else c :: substitute mark original (d :: text)

/-- The slashes that the first substitution puts in are nothing to the second one. -/
theorem unescape_eq_substitute (text : List Char) :
    unescape text = substitute '0' '~' (substitute '1' '/' text) := by
  fun_induction unescape text with
  | case1 => rfl
  | case2 key ih =>
      rw [ih, substitute, if_pos ⟨rfl, rfl⟩]
      cases substitute '1' '/' key with
      | nil => rfl
      | cons d rest => simp [substitute]
  | case3 key ih =>
      have hfirst : substitute '1' '/' ('~' :: '0' :: key) =
          '~' :: '0' :: substitute '1' '/' key := by
        cases key with
        | nil => simp [substitute]
        | cons d rest => simp [substitute]
      rw [hfirst, substitute, if_pos ⟨rfl, rfl⟩, ih]
  | case4 c key hslash htilde ih =>
      cases key with
      | nil => simp [unescape, substitute]
      | cons d rest =>
          have hfirst : ¬ (c = '~' ∧ d = '1') := fun h => hslash rest h.1 (by rw [h.2])
          rw [substitute, if_neg hfirst, ih]
          -- A tilde that stays is followed by neither mark, also after the first substitution.
          have hhead : c = '~' → (substitute '1' '/' (d :: rest)).head? ≠ some '0' := by
            intro hc hzero
            cases rest with
            | nil =>
                rw [substitute, List.head?_cons, Option.some.injEq] at hzero
                exact htilde [] hc (by rw [hzero])
            | cons e rest =>
                rw [substitute] at hzero
                split at hzero
                · simp at hzero
                · rw [List.head?_cons, Option.some.injEq] at hzero
                  exact htilde (e :: rest) hc (by rw [hzero])
          cases hsub : substitute '1' '/' (d :: rest) with
          | nil => rfl
          | cons x tail =>
              rw [substitute, if_neg]
              rintro ⟨hc, rfl⟩
              exact hhead hc (by rw [hsub]; rfl)

end Json.Pointer

end ClusterEvidence
