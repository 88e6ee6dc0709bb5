import ClusterEvidence.Text.Repeat
import ClusterEvidence.Yaml.Node

/-!
# Reading records from YAML

A plain scalar has no type of its own: it is read as what the record asks for, and every scalar is
text where text is asked for. An empty scalar is an empty list and an empty record, and it is
nothing where a field is optional. A record is read from a mapping; fields that are not declared are
skipped. An alias is followed where its value is asked for, and not otherwise.
-/

namespace ClusterEvidence.Yaml

/-- Reads a part of a document, whose nodes that have an anchor are at hand. -/
abbrev Decoding (α : Type) := ReaderT (List (Nat × Node)) (Except Fault) α

/-- Reads a node as a value of some type. -/
abbrev Decoder (α : Type) := Node → Decoding α

namespace Decoder

variable {α : Type}

/-- The node that a node stands for. No node with an anchor is an alias itself. -/
def followed : Node → Decoding Node
  | .alias number => do
      match (← read).lookup number with
      | some node => return node
      | none => throw .undefinedAlias
  | node => return node

/-! ## Scalars -/

/-- The start of the tags of the standard types. -/
def standardTag (name : String) : String := "tag:yaml.org,2002:" ++ name

/-- Whether a scalar may be something else than text: a plain one may, and a literal one whose tag
says it. -/
def isOpen (style : Style) (tag : Option String) (name : String) : Bool :=
  style == .plain || (style == .literal && tag == some (standardTag name))

/-- Whether a plain scalar stands for nothing. -/
def isNull (text : String) : Bool := ["null", "Null", "NULL", "~"].contains text

/-- Text. -/
def string : Decoder String := fun node => do
  match ← followed node with
  | .scalar _ _ text => return text
  | _ => throw (.expected "a string")

/-- The truth value that a text means. -/
def truth? (text : String) : Option Bool :=
  if ["true", "True", "TRUE"].contains text then some true
  else if ["false", "False", "FALSE"].contains text then some false
  else none

/-- A truth value. -/
def bool : Decoder Bool := fun node => do
  match ← followed node with
  | .scalar style tag text =>
      match truth? text with
      | some b => if isOpen style tag "bool" then return b else throw (.expected "a boolean")
      | none => throw (.expected "a boolean")
  | _ => throw (.expected "a boolean")

/-- The number that digits of a base mean, if there is one digit at least. -/
def digits? (base : Nat) (text : List Char) : Option Nat :=
  match text.mapM hexDigit? with
  | some (value :: values) =>
      if (value :: values).all (· < base) then
        some ((value :: values).foldl (fun number digit => number * base + digit) 0)
      else none
  | _ => none

/-- The number of a text: in decimal without leading zeros, or after a mark in another base. -/
def number? (text : List Char) : Option Nat :=
  match (Text.after? ['+'] text).getD text with
  | ['0'] => some 0
  | '0' :: 'x' :: digits => digits? 16 digits
  | '0' :: 'o' :: digits => digits? 8 digits
  | '0' :: 'b' :: digits => digits? 2 digits
  | '0' :: _ => none
  | digits => digits? 10 digits

/-- An unsigned integer of sixty-four bits. -/
def natural : Decoder Nat := fun node => do
  match ← followed node with
  | .scalar style tag text =>
      match number? text.toList with
      | some n =>
          if isOpen style tag "int" && n < UInt64.size then return n
          else throw (.expected "an unsigned integer")
      | none => throw (.expected "an unsigned integer")
  | _ => throw (.expected "an unsigned integer")

/-! ## Collections -/

/-- Whether a node is an empty scalar. -/
def isAbsent : Node → Bool
  | .scalar .plain _ "" => true
  | _ => false

/-- A value, or nothing. -/
def nullable (decoder : Decoder α) : Decoder (Option α) := fun node => do
  match ← followed node with
  | .scalar .plain none text =>
      if text = "" || isNull text then return none
      else return some (← decoder (.scalar .plain none text))
  | .scalar .plain (some tag) text =>
      if tag ≠ standardTag "null" then return some (← decoder (.scalar .plain (some tag) text))
      else if isNull text then return none
      else throw (.expected "null")
  | node => return some (← decoder node)

/-- A list. -/
def list (decoder : Decoder α) : Decoder (List α) := fun node => do
  match ← followed node with
  | .sequence items => items.mapM decoder
  | node => if isAbsent node then return [] else throw (.expected "a sequence")

/-- The entries of a mapping that declared fields take, each at most once. -/
def declared (names : List String) : List (Node × Node) → Decoding (List (String × Node))
  | [] => return []
  | (key, node) :: rest => do
      let key ← string key
      let others ← declared names rest
      if !names.contains key then return others
      else if others.any (·.1 == key) then throw (.duplicateField key)
      else return (key, node) :: others

/-- A record, built from its fields. -/
def record (names : List String) (build : List (String × Node) → Decoding α) : Decoder α :=
  fun node => do
    match ← followed node with
    | .mapping entries => build (← declared names entries)
    | node => if isAbsent node then build [] else throw (.expected "a mapping")

/-- Reads a text with a decoder. -/
def readText (decoder : Decoder α) (text : List Char) : Except Fault α := do
  let document ← Document.read text
  decoder document.root |>.run document.anchored

end Decoder

/-- The value of a field that has a default. -/
def fieldD {α : Type} (fields : List (String × Node)) (name : String) (decoder : Decoder α)
    (default : α) : Decoding α :=
  match fields.lookup name with
  | some node => decoder node
  | none => return default

end ClusterEvidence.Yaml
