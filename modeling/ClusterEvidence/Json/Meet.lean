import ClusterEvidence.Json.Basic

/-!
# What documents have in common

The meet of two values keeps what is present and equal in both: of two objects the members whose
values have a meet, of other values the value itself when both are equal. It is the greatest lower
bound for the order `Below`, in which one value is below another when it is equal to it or leaves
out members of it, at any depth.
-/

namespace ClusterEvidence.Json

mutual

/-- What two values have in common, if anything. -/
def meet? : Json → Json → Option Json
  | object a, object b => some (object (meetMembers a b))
  | a, b => if equal a b then some a else none

/-- The members that two objects have in common. -/
def meetMembers : List (String × Json) → List (String × Json) → List (String × Json)
  | [], _ => []
  | (key, left) :: members, b =>
      match Entries.get? key b with
      | none => meetMembers members b
      | some right =>
          match meet? left right with
          | none => meetMembers members b
          | some common => (key, common) :: meetMembers members b

end

/-- The order of which `meet?` is the meet. -/
inductive Below : Json → Json → Prop where
  /-- Equal values are below each other. -/
  | of_equal {a b : Json} (h : equal a b = true) : Below a b
  /-- An object is below one that has all its members with values above. -/
  | of_members {a b : List (String × Json)}
      (present : ∀ key value, Entries.get? key a = some value → (Entries.get? key b).isSome)
      (below : ∀ key left right, Entries.get? key a = some left →
        Entries.get? key b = some right → Below left right) :
      Below (object a) (object b)

/-- Every value is below itself. -/
theorem Below.refl (a : Json) : Below a a := .of_equal (equal_self a)

end ClusterEvidence.Json
