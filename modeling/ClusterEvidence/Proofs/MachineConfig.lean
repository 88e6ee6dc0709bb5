import ClusterEvidence.MachineConfig
import ClusterEvidence.Proofs.Json.Equality
import ClusterEvidence.Proofs.Json.Printable
import Mathlib.Data.List.Forall2

/-!
# Trimmed machine configurations

Trimming takes members away and writes a text anew, so that a machine configuration that can be
printed can be printed afterwards, and so can the list of them, which is two levels deeper.

## Main results

* `printable_trim` — trimming one machine configuration.
* `printable_list` — the list of machine configurations.
* `isList_list`, `IsList.of_equal` — what the list says, and what is read back of it.
* `exists_of_trim_eq_error` — the error of one that cannot be trimmed.
-/

namespace ClusterEvidence.MachineConfig

open Json (Printable)

variable {room : Nat}

private theorem printable_withoutFiles {members : List (String × Json)}
    (h : Printable room (.object members)) : Printable room (.object (withoutFiles members)) := by
  unfold withoutFiles
  split
  · next storage hget => exact h.insert "storage" ((h.get? hget).erase "files")
  · exact h

private theorem printable_trimConfig {config trimmed : Json} (h : trimConfig config = .ok trimmed)
    (hconfig : Printable room config) : Printable room trimmed := by
  cases config with
  | null =>
      cases h
      exact hconfig
  | object members =>
      cases h
      exact printable_withoutFiles hconfig
  | string text =>
      rw [trimConfig] at h
      split at h
      · cases h
        exact hconfig
      · split at h
        · cases h
        · next ignition _ =>
            cases hstrip : stripFiles ignition with
            | error fault =>
                rw [hstrip] at h
                cases h
            | ok stripped =>
                rw [hstrip] at h
                cases h
                exact .string _
  | _ => cases h

/-- Trimming one machine configuration. -/
theorem printable_trim {item trimmed : Json} (h : trim item = .ok trimmed)
    (hitem : Printable room item) : Printable room trimmed := by
  unfold trim at h
  split at h
  · cases h
    exact hitem
  · next config hfollow =>
      split at h
      · cases h
      · next stripped hstripped =>
          cases h
          refine hitem.update fun found less hfound hprintable => ?_
          rw [hfollow, Option.some.injEq] at hfound
          subst hfound
          exact printable_trimConfig hstripped hprintable

/-- The list of machine configurations. -/
theorem printable_list {items : List Json} (h : ∀ item ∈ items, Printable room item) :
    Printable (room + 2) (list items) := by
  have hitems : Printable (room + 1) (.array items) := Json.Printable.array_iff.2 ⟨by omega, h⟩
  have hkeys : ["apiVersion", "items", "kind", "metadata"].Pairwise (· < ·) := by decide
  have hempty : Printable (room + 1) (.object []) := ⟨⟨.nil, trivial⟩, by omega, trivial⟩
  exact
    { canonical :=
        ⟨List.pairwise_map.1 hkeys, trivial, hitems.canonical, trivial, hempty.canonical, trivial⟩
      within := ⟨by omega, trivial, hitems.within, trivial, hempty.within, trivial⟩ }

/-! ## The list -/

/-- A document is the list of some machine configurations, in their order. -/
structure IsList (document : Json) (items : List Json) : Prop where
  kind : document.member? "kind" = some (.string "MachineConfigList")
  apiVersion : document.member? "apiVersion" =
    some (.string "machineconfiguration.openshift.io/v1")
  items : document.member? "items" = some (.array items)

theorem isList_list (items : List Json) : IsList (list items) items where
  kind := rfl
  apiVersion := rfl
  items := rfl

/-- Equal items, one by one and in their order. -/
abbrev EqualItems : List Json → List Json → Prop := List.Forall₂ fun a b => Json.equal a b = true

private theorem equalItems_of_equalItems :
    ∀ {a b : List Json}, Json.equalItems a b = true → EqualItems a b
  | [], [], _ => .nil
  | a :: as, b :: bs, h => by
      rw [Json.equalItems, Bool.and_eq_true] at h
      exact .cons h.1 (equalItems_of_equalItems h.2)
  | [], _ :: _, h => by cases h
  | _ :: _, [], h => by cases h

/-- What equals an object answers each look-up with something equal. -/
private theorem exists_member?_of_equal {document other value : Json} {key : String}
    (heq : Json.equal document other = true) (h : document.member? key = some value) :
    ∃ found, other.member? key = some found ∧ Json.equal value found = true := by
  cases document with
  | object members =>
      cases other with
      | object others =>
          rw [Json.equal] at heq
          have hfound := Json.equalFound_of_equalMembers heq key
          rw [Json.member?] at h
          rw [h] at hfound
          cases hother : Entries.get? key others with
          | none =>
              rw [hother] at hfound
              cases hfound
          | some found =>
              rw [hother] at hfound
              cases hfound with
              | some hequal => exact ⟨found, hother, hequal⟩
      | _ => cases heq
  | _ => cases h

/-- What equals a list of machine configurations is one, and its items are equal. -/
theorem IsList.of_equal {document other : Json} {items : List Json} (h : IsList document items)
    (heq : Json.equal document other = true) :
    ∃ found, IsList other found ∧ EqualItems items found := by
  obtain ⟨kind, hkind, hkindEq⟩ := exists_member?_of_equal heq h.kind
  obtain ⟨version, hversion, hversionEq⟩ := exists_member?_of_equal heq h.apiVersion
  obtain ⟨list, hlist, hlistEq⟩ := exists_member?_of_equal heq h.items
  rw [Json.eq_string_of_equal hkindEq] at hkind
  rw [Json.eq_string_of_equal hversionEq] at hversion
  cases list with
  | array found =>
      rw [Json.equal] at hlistEq
      exact ⟨found, ⟨hkind, hversion, hlist⟩, equalItems_of_equalItems hlistEq⟩
  | _ => cases hlistEq

/-- A machine configuration that cannot be trimmed is named. -/
theorem exists_of_trim_eq_error {item : Json} {e : Error} (h : trim item = .error e) :
    ∃ fault, e = .machineConfig (name item) fault := by
  unfold trim at h
  split at h
  · cases h
  · split at h
    · next fault _ =>
        cases h
        exact ⟨fault, rfl⟩
    · cases h

end ClusterEvidence.MachineConfig
