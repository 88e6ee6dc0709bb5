import ClusterEvidence.Text.Digits
import ClusterEvidence.Xml.Event
import ClusterEvidence.Xml.Fault

/-!
# References and normalization

Character data and attribute values hold references to characters and to entities. The text of an
entity is content: its elements and data take the place of the reference. Entities may be nested ten
deep, and one reference may bring at most two hundred and fifty-five others with it, so that a loop
is found out.

Line ends become line feeds, and white space in attribute values becomes blanks. What a character
reference stands for is left alone, unless it is part of an entity's text.
-/

namespace ClusterEvidence.Xml

/-! ## References -/

/-- A part of character data: a character, a character that a reference stands for, or a reference
to an entity. -/
inductive Chunk where
  | raw (c : Char)
  | character (c : Char)
  | entity (name : List Char)
  deriving Repr

/-- The value of a hexadecimal digit. -/
def hexDigit? (c : Char) : Option Nat :=
  if c.isDigit then some (c.toNat - '0'.toNat)
  else if 'a' ≤ c && c ≤ 'f' then some (c.toNat - 'a'.toNat + 10)
  else if 'A' ≤ c && c ≤ 'F' then some (c.toNat - 'A'.toNat + 10)
  else none

/-- The number that hexadecimal digits write. -/
def hexadecimal? (digits : List Char) : Option Nat :=
  if digits.isEmpty then none
  else digits.foldlM (fun n c => (hexDigit? c).map fun d => n * 16 + d) 0

/-- The character of a code point below `2 ^ 32`; what is none is replaced. -/
def characterOf? (n : Nat) : Option Char :=
  if UInt32.size ≤ n then none
  else
    let c := if n.isValidChar then Char.ofNat n else '\ufffd'
    if isLegal c then some c else none

/-- The character that a predefined entity stands for. -/
def predefined? (name : List Char) : Option Char :=
  if name = ['q', 'u', 'o', 't'] then some '"'
  else if name = ['a', 'm', 'p'] then some '&'
  else if name = ['a', 'p', 'o', 's'] then some '\''
  else if name = ['l', 't'] then some '<'
  else if name = ['g', 't'] then some '>'
  else none

/-- A reference after its `&`. -/
def reference? : List Char → Option (Chunk × List Char)
  | '#' :: 'x' :: text => do
      let digits := text.takeWhile fun c => (hexDigit? c).isSome
      let c ← (hexadecimal? digits).bind characterOf?
      let text ← Text.after? [';'] (text.drop digits.length)
      some (.character c, text)
  | '#' :: text => do
      let digits := text.takeWhile Char.isDigit
      let c ← (Text.natural? digits).bind characterOf?
      let text ← Text.after? [';'] (text.drop digits.length)
      some (.character c, text)
  | text => do
      let (name, text) ← name? text
      let text ← Text.after? [';'] text
      some ((predefined? name).elim (.entity name) .character, text)

/-- The first part of character data. -/
def chunk? : List Char → Option (Chunk × List Char)
  | '&' :: text => reference? text
  | c :: text => some (.raw c, text)
  | [] => none

private theorem length_le_of_reference? {text rest : List Char} {chunk : Chunk}
    (h : reference? text = some (chunk, rest)) : rest.length ≤ text.length := by
  unfold reference? at h
  split at h <;>
    simp only [Option.bind_eq_bind, Option.bind_eq_some_iff, Option.some.injEq,
      Prod.mk.injEq] at h
  · obtain ⟨_, _, left, hclose, _, rfl⟩ := h
    have := Text.length_le_of_after? hclose
    simp only [List.length_drop, List.length_cons] at this ⊢
    omega
  · obtain ⟨_, _, left, hclose, _, rfl⟩ := h
    have := Text.length_le_of_after? hclose
    simp only [List.length_drop, List.length_cons] at this ⊢
    omega
  · obtain ⟨⟨name, afterName⟩, hname, left, hclose, _, rfl⟩ := h
    exact Nat.le_of_lt
      (Nat.lt_of_le_of_lt (Text.length_le_of_after? hclose) (length_lt_of_name? hname))

private theorem length_lt_of_chunk? : Text.UsesUp chunk? := by
  intro text rest chunk h
  unfold chunk? at h
  split at h
  · exact Nat.lt_succ_of_le (length_le_of_reference? h)
  · simp only [Option.some.injEq, Prod.mk.injEq] at h
    exact h.2 ▸ Nat.lt_succ_self _
  · simp at h

/-- The parts of character data. -/
def chunks (text : List Char) : Except Fault (List Chunk) :=
  match Text.readAll chunk? length_lt_of_chunk? text with
  | some parts => .ok parts
  | none => .error (.badReference "")

/-! ## Normalization -/

/-- Appends a character to character data that is collected last character first. A carriage return
waits for what follows it: with a line feed it is one, before anything else or at the end it becomes
one. -/
def pushText (collected : List Char) (c : Char) (atEnd : Bool) : List Char :=
  match collected with
  | '\r' :: before =>
      if atEnd && c == '\r' then '\n' :: '\n' :: before
      else if c != '\n' then c :: '\n' :: before
      else '\n' :: before
  | _ => if atEnd && c == '\r' then '\n' :: collected else c :: collected

/-- The text of a CDATA section with its line ends normalized. -/
def normalizeLines : (collected : List Char) → List Char → List Char
  | collected, [] => collected.reverse
  | collected, c :: text => normalizeLines (pushText collected c text.isEmpty) text

/-- Appends a character to the value of an attribute that is collected last character first, given
the one that follows it. -/
def pushValue (collected : List Char) (c : Char) (next : Option Char) : List Char :=
  if c == '\r' && next == some '\n' then collected
  else if c == '\n' || c == '\r' || c == '\t' then ' ' :: collected
  else c :: collected

/-! ## Expansion -/

/-- Declared entities with their texts; of two declarations of one name the first counts. -/
abbrev Entities := List (List Char × List Char)

/-- The text of an entity. -/
def Entities.find (entities : Entities) (name : List Char) : Except Fault (List Char) :=
  match entities.lookup name with
  | some text => .ok text
  | none => .error (.badReference (String.ofList name))

/-- A piece of content with its references resolved. -/
inductive Piece where
  | start (name : QName) (attributes : List (QName × List Char)) (ending : TagEnd)
  | finish (name : QName)
  | text (text : List Char)
  deriving Repr

/-- How deep entities may be nested. -/
def maxEntityDepth : Nat := 10

/-- How many further references one reference may bring with it. -/
def maxReferences : Nat := 255

/-- One more reference inside an entity's text, after so many. -/
def countReference (used : Nat) : Except Fault Nat :=
  if used = maxReferences then .error .entityLoop else .ok (used + 1)

/-- How the text of a referenced entity is expanded, given the number of references used so far:
what becomes of it, and the number after it. -/
abbrev Expander (α : Type) := (used : Nat) → List Char → Except Fault (α × Nat)

/-- Expands the parts of an attribute value that is not itself in an entity (`top`) or is. -/
def expandValue (entities : Entities) (inner : Expander (List Char)) (top : Bool) :
    (collected : List Char) → (used : Nat) → List Chunk → Except Fault (List Char × Nat)
  | collected, used, [] => .ok (collected, used)
  | collected, used, .raw c :: parts =>
      let next := match parts with
        | .raw d :: _ => some d
        | _ => none
      expandValue entities inner top (pushValue collected c next) used parts
  | collected, used, .character c :: parts =>
      if top then expandValue entities inner top (c :: collected) used parts
      else if c = '<' then .error .markupInAttribute
      else expandValue entities inner top (pushValue collected c none) used parts
  | collected, used, .entity name :: parts => do
      let text ← entities.find name
      let used ← if top then .ok 0 else countReference used
      let (value, used) ← inner used text
      expandValue entities inner top (value ++ collected) used parts

/-- The value, last character first, of an entity's text in an attribute, with room for so many
levels of entities. -/
def entityValue (entities : Entities) : (room : Nat) → Expander (List Char)
  | 0, _, _ => .error .entityLoop
  | room + 1, used, text => do
      let parts ← chunks text
      expandValue entities (entityValue entities room) false [] used parts

/-- The value of an attribute, in an entity's text or not. -/
def attributeValue (entities : Entities) (room : Nat) (top : Bool) : Expander (List Char) :=
  fun used raw => do
    let parts ← chunks raw
    let (value, used) ← expandValue entities (entityValue entities room) top [] used parts
    .ok (value.reverse, used)

/-- A piece of text, unless it is empty. -/
def textPiece (collected : List Char) : List Piece :=
  if collected.isEmpty then [] else [.text collected.reverse]

/-- Expands the parts of character data. After a reference to a character that stands outside all
entities the next character is taken as it is (`asIs`). -/
def expandText (entities : Entities) (inner : Expander (List Piece)) (top : Bool) :
    (collected : List Char) → (asIs : Bool) → (used : Nat) → List Chunk →
      Except Fault (List Piece × Nat)
  | collected, _, used, [] => .ok (textPiece collected, used)
  | collected, asIs, used, .raw c :: parts =>
      let collected := if asIs then c :: collected else pushText collected c parts.isEmpty
      expandText entities inner top collected false used parts
  | collected, asIs, used, .character c :: parts =>
      if top then expandText entities inner top (c :: collected) true used parts
      else expandText entities inner top (pushText collected c parts.isEmpty) asIs used parts
  | collected, _, used, .entity name :: parts => do
      let text ← entities.find name
      let used ← if top then .ok 0 else countReference used
      let (pieces, used) ← inner used text
      let (others, used) ← expandText entities inner top [] false used parts
      .ok (textPiece collected ++ pieces ++ others, used)

/-- Expands the values of attributes, in order. -/
def expandAttributes (value : Expander (List Char)) :
    (used : Nat) → List (QName × List Char) → Except Fault (List (QName × List Char) × Nat)
  | used, [] => .ok ([], used)
  | used, (name, raw) :: attributes => do
      let (text, used) ← value used raw
      let (others, used) ← expandAttributes value used attributes
      .ok ((name, text) :: others, used)

/-- Expands the events of content. -/
def expandEvents (entities : Entities) (value : Expander (List Char))
    (inner : Expander (List Piece)) (top : Bool) :
    (used : Nat) → List Event → Except Fault (List Piece × Nat)
  | used, [] => .ok ([], used)
  | used, event :: events => do
      let (pieces, used) ←
        match event with
        | .start name attributes ending => do
            let (attributes, used) ← expandAttributes value used attributes
            .ok ([Piece.start name attributes ending], used)
        | .finish name => .ok ([Piece.finish name], used)
        | .cdata text => .ok (textPiece (normalizeLines [] text).reverse, used)
        | .text raw => do
            let parts ← chunks raw
            expandText entities inner top [] false used parts
      let (others, used) ← expandEvents entities value inner top used events
      .ok (pieces ++ others, used)

/-- The pieces of an entity's text, with room for so many levels of entities. -/
def entityPieces (entities : Entities) : (room : Nat) → Expander (List Piece)
  | 0, _, _ => .error .entityLoop
  | room + 1, used, text =>
      match Event.ofEntity? text with
      | none => .error .malformed
      | some events =>
          expandEvents entities (attributeValue entities room false) (entityPieces entities room)
            false used events

/-- The pieces of a document, whose entities are given apart. -/
def pieces (entities : Entities) (events : List Event) : Except Fault (List Piece) := do
  let (pieces, _) ← expandEvents entities (attributeValue entities maxEntityDepth true)
    (entityPieces entities maxEntityDepth) true 0 events
  .ok pieces

end ClusterEvidence.Xml
