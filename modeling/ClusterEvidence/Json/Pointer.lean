import ClusterEvidence.Json.Basic
import ClusterEvidence.Text.Blank
import ClusterEvidence.Text.Digits

/-!
# JSON Pointers

A pointer names a place in a document by the keys on the way to it, each after a slash. In a key a
tilde is written `~0` and a slash `~1`, so that the pointer can be cut at its slashes again.

## Main results

* `unescape_escape` — a key is read back from its escaped form.
* `slash_not_mem_escape` — an escaped key has no slash, so pointers are cut at the right places.
-/

namespace ClusterEvidence.Json.Pointer

/-! ## Keys in a pointer -/

/-- A key with its tildes and slashes written out of the way. -/
def escape : List Char → List Char
  | [] => []
  | c :: key =>
      if c = '~' then '~' :: '0' :: escape key
      else if c = '/' then '~' :: '1' :: escape key
      else c :: escape key

/-- The key of an escaped form: `~1` is a slash, then `~0` is a tilde; another tilde stays. -/
def unescape : List Char → List Char
  | [] => []
  | '~' :: '1' :: key => '/' :: unescape key
  | '~' :: '0' :: key => '~' :: unescape key
  | c :: key => c :: unescape key

/-- A key is read back from its escaped form. -/
theorem unescape_escape (key : List Char) : unescape (escape key) = key := by
  induction key with
  | nil => rfl
  | cons c key ih =>
      rw [escape]
      split
      · next h => subst h; simp [unescape, ih]
      · split
        · next h => subst h; simp [unescape, ih]
        · next htilde hslash => rw [unescape] <;> simp_all

/-- An escaped key has no slash. -/
theorem slash_not_mem_escape (key : List Char) : '/' ∉ escape key := by
  induction key with
  | nil => simp [escape]
  | cons c key ih =>
      rw [escape]
      split
      · simp [ih]
      · split
        · simp [ih]
        · next _ h => simp [ih, Ne.symm h]

/-- The pointer to a member of the place a pointer names. -/
def child (path : String) (key : String) : String :=
  path ++ String.ofList ('/' :: escape key.toList)

/-- The keys of a pointer; the text before the first slash is not one of them. -/
def keys (path : String) : List String :=
  ((Text.splitOn '/' path.toList).drop 1).map fun piece => String.ofList (unescape piece)

/-! ## Following a pointer -/

/-- The place of an item that a key writes: decimal digits without a sign and without a zero in
front of another digit. -/
def index? (key : String) : Option Nat :=
  let digits := key.toList
  if digits.head? == some '0' && digits.length != 1 then none else Text.natural? digits

/-- The value that one key leads to. -/
def step? (key : String) : Json → Option Json
  | object members => Entries.get? key members
  | array items => (index? key).bind fun i => items[i]?
  | _ => none

/-- The value that a list of keys leads to. -/
def follow? (path : List String) (value : Json) : Option Json :=
  path.foldlM (fun value key => step? key value) value

/-- The value with the place that a list of keys leads to changed by a function, when there is
such a place. -/
def update (f : Json → Json) : List String → Json → Json
  | [], value => f value
  | key :: path, object members =>
      match Entries.get? key members with
      | some value => object (Entries.insert key (update f path value) members)
      | none => object members
  | key :: path, array items =>
      match index? key with
      | some i =>
          match items[i]? with
          | some value => array (items.set i (update f path value))
          | none => array items
      | none => array items
  | _ :: _, value => value

end ClusterEvidence.Json.Pointer
