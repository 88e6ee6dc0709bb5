import ClusterEvidence.Json.Reader

/-!
# Reading records

A record with declared fields is read from an object, in which fields that are not declared are
skipped unseen, or from an array that gives the fields in the order of their declaration. A field
may be given once only. One with a default may be left out, in an array at the end; null stands
for nothing where a field is optional and is refused everywhere else.
-/

namespace ClusterEvidence.Json

/-- Reads a tree as a value of some type, with room for so many levels of nesting. -/
abbrev Decoder (α : Type) := (room : Nat) → Written → Except Fault α

/-- The fields of a record that are given, and the room left for their values. -/
structure Fields where
  room : Nat
  given : List (String × Written)

namespace Decoder

variable {α : Type}

/-! ## Single values -/

/-- Any JSON value. -/
def json : Decoder Json := ofWritten

/-- A string. -/
def string : Decoder String
  | _, .string (some s) => .ok s
  | _, .string none => .error .notText
  | _, _ => .error (.expected "a string")

/-- A truth value. -/
def bool : Decoder Bool
  | _, .bool b => .ok b
  | _, _ => .error (.expected "a boolean")

/-- An unsigned integer of sixty-four bits. -/
def natural : Decoder Nat
  | _, .number (some (.integer n)) =>
      if 0 ≤ n then .ok n.toNat else .error (.expected "an unsigned integer")
  | _, _ => .error (.expected "an unsigned integer")

/-- A value, or null for nothing. -/
def nullable (decoder : Decoder α) : Decoder (Option α)
  | _, .null => .ok none
  | room, tree => (decoder room tree).map some

/-! ## Collections -/

/-- The items of a list, in order. -/
def items (decoder : Decoder α) (room : Nat) : List Written → Except Fault (List α)
  | [] => .ok []
  | item :: rest => do
      let value ← decoder room item
      let values ← items decoder room rest
      .ok (value :: values)

/-- A list, from an array. -/
def list (decoder : Decoder α) : Decoder (List α)
  | 0, .array _ => .error .tooDeep
  | room + 1, .array trees => items decoder room trees
  | _, _ => .error (.expected "an array")

/-- The entries of a map, in the order of the text. -/
def entries (decoder : Decoder α) (room : Nat) :
    List (Option String × Written) → Except Fault (List (String × α))
  | [] => .ok []
  | (none, _) :: _ => .error .notText
  | (some key, tree) :: rest => do
      let value ← decoder room tree
      let values ← entries decoder room rest
      .ok ((key, value) :: values)

/-- A map, from an object; of a key that is given twice the later value stands. -/
def keyed (decoder : Decoder α) : Decoder (Keyed α)
  | 0, .object _ => .error .tooDeep
  | room + 1, .object members => (entries decoder room members).map Keyed.ofList
  | _, _ => .error (.expected "an object")

/-! ## Records -/

/-- The members of an object that declared fields take, each at most once. -/
def declared (names : List String) :
    List (Option String × Written) → Except Fault (List (String × Written))
  | [] => .ok []
  | (none, _) :: _ => .error .notText
  | (some key, tree) :: rest => do
      let others ← declared names rest
      if !names.contains key then .ok others
      else if others.any (·.1 == key) then .error (.duplicateField key)
      else .ok ((key, tree) :: others)

/-- A record, built from its fields. -/
def record (names : List String) (build : Fields → Except Fault α) : Decoder α
  | 0, .object _ => .error .tooDeep
  | 0, .array _ => .error .tooDeep
  | room + 1, .object members => do
      let given ← declared names members
      build ⟨room, given⟩
  | room + 1, .array trees =>
      if names.length < trees.length then .error .extraElements
      else build ⟨room, names.zip trees⟩
  | _, _ => .error (.expected "an object")

/-- Reads a text with a decoder. -/
def read (decoder : Decoder α) (bytes : Bytes) : Except Fault α := do
  let tree ← Written.read bytes
  decoder maxDepth tree

end Decoder

/-- The value of a field that has a default. -/
def Fields.getD {α : Type} (fields : Fields) (name : String) (decoder : Decoder α) (default : α) :
    Except Fault α :=
  match fields.given.lookup name with
  | some tree => decoder fields.room tree
  | none => .ok default

/-- The value of a field that must be given. -/
def Fields.get {α : Type} (fields : Fields) (name : String) (decoder : Decoder α) :
    Except Fault α :=
  match fields.given.lookup name with
  | some tree => decoder fields.room tree
  | none => .error (.missingField name)

end ClusterEvidence.Json
