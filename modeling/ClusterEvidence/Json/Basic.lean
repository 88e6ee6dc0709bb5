import ClusterEvidence.Json.Binary64
import ClusterEvidence.Keyed

/-!
# JSON values

A JSON value as the collector handles it. The members of an object are a list of entries; every
operation of the library keeps them strictly sorted by key, which `Canonical` states for the whole
value. Equality (`equal`, also written `==`) compares numbers as the reader classified them: an
integer never equals a double, and the two zeros of a double are equal.

The recursion over nested values is a group of three functions: over a value, over a list of
items and over a list of members.
-/

namespace ClusterEvidence

/-- A number is an integer when it was written as one and fits in sixty-four bits, signed or
unsigned; otherwise it is a double. -/
inductive Json.Number where
  | integer (value : Int)
  | double (value : Json.Binary64)
  deriving DecidableEq, Repr

/-- A JSON value. -/
inductive Json where
  | null
  | bool (value : Bool)
  | number (value : Json.Number)
  | string (value : String)
  | array (items : List Json)
  | object (members : List (String × Json))
  deriving Repr, Inhabited

namespace Json

/-! ## Equality -/

/-- Equality of numbers; the two kinds are never equal. -/
def Number.equal : Number → Number → Bool
  | .integer a, .integer b => a == b
  | .double a, .double b => a.equal b
  | _, _ => false

mutual

/-- Equality of values. -/
def equal : Json → Json → Bool
  | null, null => true
  | bool a, bool b => a == b
  | number a, number b => a.equal b
  | string a, string b => a == b
  | array a, array b => equalItems a b
  | object a, object b => equalMembers a b
  | _, _ => false

/-- Equality of items, one by one. -/
def equalItems : List Json → List Json → Bool
  | [], [] => true
  | a :: as, b :: bs => equal a b && equalItems as bs
  | _, _ => false

/-- Equality of members, one by one; in sorted lists this is equality of objects. -/
def equalMembers : List (String × Json) → List (String × Json) → Bool
  | [], [] => true
  | (k, a) :: as, (l, b) :: bs => k == l && equal a b && equalMembers as bs
  | _, _ => false

end

instance : BEq Json := ⟨equal⟩

/-- A double equals itself. -/
private theorem Binary64.equal_self (a : Binary64) : a.equal a = true := by
  simp [Binary64.equal]

/-- A number equals itself. -/
theorem Number.equal_self (a : Number) : a.equal a = true := by
  cases a <;> simp [Number.equal, Binary64.equal_self]

mutual

/-- A value equals itself. -/
theorem equal_self : ∀ a : Json, equal a a = true
  | null => rfl
  | bool _ => by simp [equal]
  | number n => by simp [equal, n.equal_self]
  | string _ => by simp [equal]
  | array items => by simp [equal, equalItems_self items]
  | object members => by simp [equal, equalMembers_self members]

theorem equalItems_self : ∀ items : List Json, equalItems items items = true
  | [] => rfl
  | a :: items => by simp [equalItems, equal_self a, equalItems_self items]

theorem equalMembers_self : ∀ members : List (String × Json), equalMembers members members = true
  | [] => rfl
  | (_, a) :: members => by simp [equalMembers, equal_self a, equalMembers_self members]

end

/-! ## The canonical form -/

mutual

/-- In every object below a value the members are strictly sorted by key. -/
def Canonical : Json → Prop
  | array items => CanonicalItems items
  | object members => Entries.Sorted members ∧ CanonicalMembers members
  | _ => True

/-- Every item is canonical. -/
def CanonicalItems : List Json → Prop
  | [] => True
  | a :: items => Canonical a ∧ CanonicalItems items

/-- Every member's value is canonical. -/
def CanonicalMembers : List (String × Json) → Prop
  | [] => True
  | (_, a) :: members => Canonical a ∧ CanonicalMembers members

end

/-! ## Kinds -/

/-- The word for the kind of a value in messages. -/
def kindName : Json → String
  | null => "null"
  | bool _ => "boolean"
  | number _ => "number"
  | string _ => "string"
  | array _ => "array"
  | object _ => "object"

/-- Whether a value is an object. -/
def isObject : Json → Bool
  | object _ => true
  | _ => false

/-- The text of a string. -/
def asString? : Json → Option String
  | string s => some s
  | _ => none

/-- The member of an object under a key. -/
def member? (key : String) : Json → Option Json
  | object members => Entries.get? key members
  | _ => none

end Json

end ClusterEvidence
