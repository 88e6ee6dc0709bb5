import ClusterEvidence.Text.Blank
import Mathlib.Data.List.Basic

/-!
# Cutting a text at a separator

The pieces of a text hold no separator, and pieces without a separator that are joined by it are
the pieces of the result. So a text with its separators and the list of its pieces say the same,
and facts about one are proved of the other.

## Main results

* `splitOn_append_cons` — the pieces around a separator are those on its left and on its right.
* `splitOn_intercalate` — joined pieces are cut where they were joined.
* `splitOn_eq_pair_iff` — which texts are cut into two pieces.
-/

namespace ClusterEvidence.Text

/-- A piece without the separator is not cut. -/
theorem splitOn_of_not_mem {separator : Char} {piece : List Char} (h : separator ∉ piece) :
    splitOn separator piece = [piece] := by
  induction piece with
  | nil => rfl
  | cons c piece ih =>
      obtain ⟨hc, hpiece⟩ := not_or.1 (mt List.mem_cons.2 h)
      have ih := ih hpiece
      simp only [splitOn] at ih ⊢
      rw [splitWhen, if_neg (by simpa using Ne.symm hc), ih]

/-- A separator ends the last piece of what stands in front of it. -/
theorem splitOn_append_cons (separator : Char) (front rest : List Char) :
    splitOn separator (front ++ separator :: rest) =
      splitOn separator front ++ splitOn separator rest := by
  induction front with
  | nil => simp [splitOn, splitWhen]
  | cons c front ih =>
      simp only [splitOn] at ih ⊢
      rw [List.cons_append, splitWhen, splitWhen, ih]
      split
      · rfl
      · cases hfront : splitWhen (· == separator) front with
        | nil => exact absurd hfront (splitWhen_ne_nil _ front)
        | cons piece pieces => rfl

/-- No piece holds the separator. -/
theorem not_mem_of_mem_splitOn {separator : Char} {text piece : List Char}
    (h : piece ∈ splitOn separator text) : separator ∉ piece := by
  induction text generalizing piece with
  | nil =>
      have hpiece : piece = [] := by simpa [splitOn, splitWhen] using h
      simp [hpiece]
  | cons c text ih =>
      simp only [splitOn] at ih h
      rw [splitWhen] at h
      by_cases hc : c = separator
      · have hcases : piece = [] ∨ piece ∈ splitWhen (· == separator) text := by
          simpa [hc] using h
        rcases hcases with rfl | hpiece
        · simp
        · exact ih hpiece
      · cases hrest : splitWhen (· == separator) text with
        | nil => exact absurd hrest (splitWhen_ne_nil _ text)
        | cons first pieces =>
            rw [hrest] at ih
            have hcases : piece = c :: first ∨ piece ∈ pieces := by
              simpa [hc, hrest] using h
            rcases hcases with rfl | hpiece
            · have hfirst : separator ∉ first := ih List.mem_cons_self
              simp [Ne.symm hc, hfirst]
            · exact ih (List.mem_cons_of_mem _ hpiece)

/-- Joined pieces are cut where they were joined. -/
theorem splitOn_intercalate {separator : Char} {pieces : List (List Char)} (hne : pieces ≠ [])
    (h : ∀ piece ∈ pieces, separator ∉ piece) :
    splitOn separator (List.intercalate [separator] pieces) = pieces := by
  induction pieces with
  | nil => exact absurd rfl hne
  | cons piece pieces ih =>
      have hpiece : separator ∉ piece := h piece List.mem_cons_self
      by_cases hlast : pieces = []
      · rw [hlast, List.intercalate_singleton]
        exact splitOn_of_not_mem hpiece
      · have hrest := ih hlast fun other hother => h other (List.mem_cons_of_mem _ hother)
        rw [List.intercalate_cons_of_ne_nil hlast, List.append_assoc, List.singleton_append,
          splitOn_append_cons, splitOn_of_not_mem hpiece, hrest]
        rfl

/-- A text has two pieces when it is made of these, which hold no separator, and one separator. -/
theorem splitOn_eq_pair_iff {separator : Char} {text first second : List Char} :
    splitOn separator text = [first, second] ↔
      text = first ++ separator :: second ∧ separator ∉ first ∧ separator ∉ second := by
  constructor
  · intro h
    refine ⟨?_, not_mem_of_mem_splitOn (h ▸ List.mem_cons_self),
      not_mem_of_mem_splitOn (h ▸ List.mem_cons_of_mem _ List.mem_cons_self)⟩
    rw [← intercalate_splitOn separator text, h]
    simp [List.intercalate, List.intersperse]
  · intro h
    obtain ⟨rfl, hfirst, hsecond⟩ := h
    rw [splitOn_append_cons, splitOn_of_not_mem hfirst, splitOn_of_not_mem hsecond]
    rfl

/-- The first separator of a text determines what stands in front of it and behind it. -/
theorem eq_of_append_cons_eq {separator : Char} {front other rest tail : List Char}
    (hfront : separator ∉ front) (hother : separator ∉ other)
    (h : front ++ separator :: rest = other ++ separator :: tail) :
    front = other ∧ rest = tail := by
  induction front generalizing other with
  | nil =>
      cases other with
      | nil => exact ⟨rfl, (List.cons.inj h).2⟩
      | cons c other =>
          rw [(List.cons.inj h).1] at hother
          exact absurd List.mem_cons_self hother
  | cons c front ih =>
      cases other with
      | nil =>
          rw [← (List.cons.inj h).1] at hfront
          exact absurd List.mem_cons_self hfront
      | cons d other =>
          obtain ⟨rfl, htail⟩ := List.cons.inj h
          obtain ⟨rfl, hrest⟩ := ih (fun hmem => hfront (List.mem_cons_of_mem _ hmem))
            (fun hmem => hother (List.mem_cons_of_mem _ hmem)) htail
          exact ⟨rfl, hrest⟩

end ClusterEvidence.Text
