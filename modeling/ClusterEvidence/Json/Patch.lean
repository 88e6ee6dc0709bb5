import ClusterEvidence.Json.Pointer
import ClusterEvidence.Json.Printer

/-!
# Differences of documents

The difference of two documents is a JSON Patch that turns the first into the second. Objects are
compared member by member, at any depth; any other two values are compared as a whole, so an array
that differs is replaced. Removals and replacements come in key order, and within one object the
additions follow them.

The patch can be applied (`Operation.applyAll?`). Application is strict: the target of a removal or
replacement must be there, and an added member must not.
-/

namespace ClusterEvidence.Json

/-! ## Operations -/

/-- One operation of a JSON Patch; `path` is a JSON Pointer. -/
inductive Operation where
  | add (path : String) (value : Json)
  | remove (path : String)
  | replace (path : String) (value : Json)
  deriving Repr

namespace Operation

/-- The place that an operation changes. -/
def path : Operation → String
  | add path _ => path
  | remove path => path
  | replace path _ => path

/-- The object that writes an operation down. -/
def toJson : Operation → Json
  | add path value =>
      object [("op", string "add"), ("path", string path), ("value", value)]
  | remove path => object [("op", string "remove"), ("path", string path)]
  | replace path value =>
      object [("op", string "replace"), ("path", string path), ("value", value)]

end Operation

/-- The text of a list of operations. -/
def patchText (operations : List Operation) : String :=
  compactString (array (operations.map Operation.toJson))

/-! ## The difference -/

/-- The additions of the members of an object that another lacks. -/
def additions (path : String) (a b : List (String × Json)) : List Operation :=
  (b.filter fun member => (Entries.get? member.1 a).isNone).map fun member =>
    .add (Pointer.child path member.1) member.2

mutual

/-- The operations that turn one value into another, both at the same place. -/
def differenceAt (path : String) : Json → Json → List Operation
  | object a, object b => changes path a b ++ additions path a b
  | a, b => if equal a b then [] else [.replace path b]

/-- The removals and changes of the members of an object that turn them into those of another. -/
def changes (path : String) : List (String × Json) → List (String × Json) → List Operation
  | [], _ => []
  | (key, old) :: members, b =>
      (match Entries.get? key b with
        | some new => differenceAt (Pointer.child path key) old new
        | none => [.remove (Pointer.child path key)]) ++ changes path members b

end

/-- The operations that turn one document into another. -/
def difference (a b : Json) : List Operation := differenceAt "" a b

/-! ## Applying a patch -/

/-- Changes the value at a place: the function is given what is there and says what shall be
there, nothing for no member, or refuses. Only objects are entered, and the document itself cannot
be removed. -/
def alter? (f : Option Json → Option (Option Json)) : List String → Json → Option Json
  | [], value => (f (some value)).bind id
  | [key], object members =>
      match f (Entries.get? key members) with
      | none => none
      | some none => some (object (Entries.erase key members))
      | some (some value) => some (object (Entries.insert key value members))
  | key :: path, object members => do
      let value ← Entries.get? key members
      let value ← alter? f path value
      some (object (Entries.insert key value members))
  | _ :: _, _ => none

/-- Applies one operation. -/
def Operation.apply? (document : Json) : Operation → Option Json
  | .add path value =>
      alter? (fun found => if found.isNone then some (some value) else none)
        (Pointer.keys path) document
  | .remove path =>
      alter? (fun found => if found.isSome then some none else none) (Pointer.keys path) document
  | .replace path value =>
      alter? (fun found => if found.isSome then some (some value) else none)
        (Pointer.keys path) document

/-- Applies operations one after another. -/
def Operation.applyAll? (operations : List Operation) (document : Json) : Option Json :=
  operations.foldlM Operation.apply? document

end ClusterEvidence.Json
