import ClusterEvidence.Xml.Lexical

/-!
# Events of content

Content as a list of events: tags, character data and CDATA sections, in the order of the text.
Comments and processing instructions leave no event. The names of tags are not matched here and
references are not resolved, but tags are counted: content reaches as far as the end tag of what is
around it. Content may also end with its text, even within a start tag, because the text of an
entity is content and the element may go on outside it.
-/

namespace ClusterEvidence.Xml

open Text (UsesUp length_of_after? length_le_of_after? length_le_of_cutAt length_le_of_dropWhile
  length_le_of_readUntil)

/-- How a start tag ends. -/
inductive TagEnd where
  /-- The element begins. -/
  | opened
  /-- The element is empty and ends with its tag. -/
  | closed
  /-- The text ends after the name or an attribute, and the tag does not. -/
  | missing
  deriving DecidableEq, Repr

/-- A piece of content as it is written. -/
inductive Event where
  | start (name : QName) (attributes : List (QName × List Char)) (ending : TagEnd)
  | finish (name : QName)
  /-- Character data with its references. -/
  | text (raw : List Char)
  | cdata (text : List Char)
  deriving Repr

namespace Event

/-- The end of a start tag, and what follows. -/
def tagEnd? (text : List Char) : Option (TagEnd × List Char) :=
  if text.isEmpty then some (.missing, [])
  else
    match skipSpace text with
    | '/' :: '>' :: rest => some (.closed, rest)
    | '>' :: rest => some (.opened, rest)
    | _ => none

/-- White space and an attribute after it. -/
def spacedAttribute? (text : List Char) : Option ((QName × List Char) × List Char) :=
  (space? text).bind attribute?

private theorem length_le_of_tagEnd? {text rest : List Char} {ending : TagEnd}
    (h : tagEnd? text = some (ending, rest)) : rest.length ≤ text.length := by
  have hle := length_le_of_skipSpace text
  unfold tagEnd? at h
  split at h
  · simp only [Option.some.injEq, Prod.mk.injEq] at h
    exact h.2 ▸ Nat.zero_le _
  · split at h <;> simp_all <;> omega

theorem length_lt_of_spacedAttribute? : UsesUp spacedAttribute? := by
  intro text rest value h
  obtain ⟨_, hspace, hattribute⟩ := Option.bind_eq_some_iff.1 h
  exact Nat.lt_trans (length_lt_of_attribute? hattribute) (length_lt_of_space? hspace)

/-- A start tag after its `<`. White space stands before each attribute. -/
def startTag? (text : List Char) : Option (Event × List Char) := do
  let (name, text) ← qname? text
  let (attributes, ending, text) ←
    Text.readUntil tagEnd? spacedAttribute? length_lt_of_spacedAttribute? text
  some (.start name attributes ending, text)

/-- An end tag after its `</`. -/
def endTag? (text : List Char) : Option (Event × List Char) := do
  let (name, text) ← qname? text
  let text ← Text.after? ['>'] (skipSpace text)
  some (.finish name, text)

/-- Character data up to the next `<`. There is some, and it does not hold `]]>`. -/
def characterData? (text : List Char) : Option (Event × List Char) :=
  let raw := text.takeWhile (· != '<')
  if !raw.isEmpty && raw.all isLegal && (Text.cutAt [']', ']', '>'] raw).isNone then
    some (.text raw, text.dropWhile (· != '<'))
  else none

/-- A CDATA section after its opening. -/
def cdata? (text : List Char) : Option (Event × List Char) := do
  let (body, text) ← Text.cutAt [']', ']', '>'] text
  if body.all isLegal then some (.cdata body, text) else none

/-- The first piece of content; a comment or an instruction leaves no event. -/
def first? (text : List Char) : Option (Option Event × List Char) :=
  match text with
  | '<' :: '!' :: '-' :: '-' :: _ => (comment? text).map fun rest => (none, rest)
  | '<' :: '!' :: '[' :: 'C' :: 'D' :: 'A' :: 'T' :: 'A' :: '[' :: body =>
      (cdata? body).map fun (event, rest) => (some event, rest)
  | '<' :: '!' :: _ => none
  | '<' :: '?' :: _ => (instruction? text).map fun rest => (none, rest)
  | '<' :: '/' :: body => (endTag? body).map fun (event, rest) => (some event, rest)
  | '<' :: body => (startTag? body).map fun (event, rest) => (some event, rest)
  | _ => (characterData? text).map fun (event, rest) => (some event, rest)

private theorem length_le_of_startTag? {text rest : List Char} {event : Event}
    (h : startTag? text = some (event, rest)) : rest.length ≤ text.length := by
  simp only [startTag?, Option.bind_eq_bind, Option.bind_eq_some_iff, Option.some.injEq,
    Prod.mk.injEq] at h
  obtain ⟨⟨name, afterName⟩, hname, ⟨attributes, ending, left⟩, hread, _, rfl⟩ := h
  exact Nat.le_trans (length_le_of_readUntil length_le_of_tagEnd? hread)
    (length_le_of_qname? hname)

private theorem length_le_of_endTag? {text rest : List Char} {event : Event}
    (h : endTag? text = some (event, rest)) : rest.length ≤ text.length := by
  simp only [endTag?, Option.bind_eq_bind, Option.bind_eq_some_iff, Option.some.injEq,
    Prod.mk.injEq] at h
  obtain ⟨⟨name, afterName⟩, hname, left, hclose, _, rfl⟩ := h
  exact Nat.le_trans (length_le_of_after? hclose)
    (Nat.le_trans (length_le_of_skipSpace _) (length_le_of_qname? hname))

private theorem length_lt_of_characterData? : UsesUp characterData? := by
  intro text rest event h
  have hsum := congrArg List.length (text.takeWhile_append_dropWhile (p := (· != '<')))
  simp only [characterData?, Option.ite_none_right_eq_some, Option.some.injEq, Prod.mk.injEq] at h
  obtain ⟨hraw, _, rfl⟩ := h
  have hpos : 0 < (text.takeWhile (· != '<')).length := by
    rw [List.length_pos_iff]
    intro hnil
    simp [hnil] at hraw
  simp only [List.length_append] at hsum
  omega

private theorem length_le_of_cdata? {text rest : List Char} {event : Event}
    (h : cdata? text = some (event, rest)) : rest.length ≤ text.length := by
  simp only [cdata?, Option.bind_eq_bind, Option.bind_eq_some_iff, Option.ite_none_right_eq_some,
    Option.some.injEq, Prod.mk.injEq] at h
  obtain ⟨⟨body, left⟩, hcut, _, _, rfl⟩ := h
  exact length_le_of_cutAt hcut

theorem length_lt_of_first? : UsesUp first? := by
  intro text rest event h
  unfold first? at h
  split at h <;>
    simp only [Option.map_eq_some_iff, Prod.mk.injEq, Prod.exists, reduceCtorEq] at h
  · obtain ⟨_, hcomment, _, rfl⟩ := h
    exact length_lt_of_comment? hcomment
  · obtain ⟨_, _, hcdata, _, rfl⟩ := h
    have := length_le_of_cdata? hcdata
    simp only [List.length_cons]
    omega
  · obtain ⟨_, hinstruction, _, rfl⟩ := h
    exact length_lt_of_instruction? hinstruction
  · obtain ⟨_, _, htag, _, rfl⟩ := h
    have := length_le_of_endTag? htag
    simp only [List.length_cons]
    omega
  · obtain ⟨_, _, htag, _, rfl⟩ := h
    have := length_le_of_startTag? htag
    simp only [List.length_cons]
    omega
  · obtain ⟨_, _, hdata, _, rfl⟩ := h
    exact length_lt_of_characterData? hdata

/-! ## Content -/

/-- How many elements are open after an event, after so many are before it; nothing after the end
tag of what is around them. -/
def depthAfter? (depth : Nat) : Event → Option Nat
  | .start _ _ .opened => some (depth + 1)
  | .finish _ => if depth = 0 then none else some (depth - 1)
  | _ => some depth

/-- The events of content with so many elements open in it, up to the end tag of what is around it
or the end of the text, and what follows. -/
def content? (depth : Nat) (text : List Char) : Option (List Event × List Char) :=
  if text.isEmpty then some ([], [])
  else
    match h : first? text with
    | none => none
    | some (none, rest) =>
        have : rest.length < text.length := length_lt_of_first? h
        content? depth rest
    | some (some event, rest) =>
        have : rest.length < text.length := length_lt_of_first? h
        match depthAfter? depth event with
        | none => some ([event], rest)
        | some depth => (content? depth rest).map fun (events, rest) => (event :: events, rest)
termination_by text.length

/-- The events of an element, and what follows it. -/
def element? (text : List Char) : Option (List Event × List Char) := do
  let text ← Text.after? ['<'] text
  let (tag, text) ← startTag? text
  let (events, text) ← if depthAfter? 0 tag = some 1 then content? 0 text else some ([], text)
  some (tag :: events, text)

/-- Whether an event is a start tag. -/
def isStart : Event → Bool
  | .start .. => true
  | _ => false

/-- Whether an event is an end tag. -/
def isFinish : Event → Bool
  | .finish _ => true
  | _ => false

/-- The events of an entity's text. What follows an end tag of an element from outside is never
looked at. Such a tag only stands after a start tag of the text's own. -/
def ofEntity? (text : List Char) : Option (List Event) := do
  let (events, _) ← content? 0 text
  if (events.find? fun event => event.isStart || event.isFinish).any isFinish then none
  else some events

end Event

end ClusterEvidence.Xml
