/-!
# Going through a list with a function that may fail

The first failure, in the order of the list, ends the pass.

## Main results

* `gather_append` — gathering from two lists is gathering from each in turn.
-/

namespace ClusterEvidence

variable {α β ε : Type}

/-- The values that a function gives for every value of a list. -/
def mapAll (f : α → Except ε β) : List α → Except ε (List β)
  | [] => .ok []
  | a :: rest => do
      let first ← f a
      let others ← mapAll f rest
      .ok (first :: others)

/-- The values that a function gives for every value of a list, several for each, one after
another. -/
def gather (f : α → Except ε (List β)) : List α → Except ε (List β)
  | [] => .ok []
  | a :: rest => do
      let first ← f a
      let others ← gather f rest
      .ok (first ++ others)

/-- Gathering from two lists is gathering from each in turn. -/
theorem gather_append (f : α → Except ε (List β)) (xs ys : List α) :
    gather f (xs ++ ys) = (do
      let first ← gather f xs
      let others ← gather f ys
      .ok (first ++ others)) := by
  induction xs with
  | nil => cases h : gather f ys <;> simp [gather, h, bind, Except.bind]
  | cons x xs ih =>
      simp only [List.cons_append, gather, ih]
      cases f x <;> cases gather f xs <;> cases gather f ys <;>
        simp [bind, Except.bind]

end ClusterEvidence
