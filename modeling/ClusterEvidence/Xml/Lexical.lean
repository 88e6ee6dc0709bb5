import ClusterEvidence.Text.Repeat

/-!
# Characters and names of XML

The character classes of XML 1.0 and the small readers that everything else is made of. A reader
takes a text and gives what it read and what is left, or nothing; what is left is never longer.
-/

namespace ClusterEvidence.Xml

open Text (UsesUp length_of_after? length_le_of_after? length_le_of_cutAt length_le_of_dropWhile)

/-! ## Classes -/

/-- White space between parts of markup. -/
def isSpace (c : Char) : Bool := c == ' ' || c == '\t' || c == '\n' || c == '\r'

/-- A character that a document may hold. -/
def isLegal (c : Char) : Bool :=
  let n := c.toNat
  if n < 0x20 then c == '\t' || c == '\n' || c == '\r' else n != 0xFFFE && n != 0xFFFF

/-- The ranges beyond ASCII of characters that may begin a name. -/
def nameStartRanges : List (Nat × Nat) :=
  [(0xC0, 0xD6), (0xD8, 0xF6), (0xF8, 0x2FF), (0x370, 0x37D), (0x37F, 0x1FFF), (0x200C, 0x200D),
    (0x2070, 0x218F), (0x2C00, 0x2FEF), (0x3001, 0xD7FF), (0xF900, 0xFDCF), (0xFDF0, 0xFFFD),
    (0x10000, 0xEFFFF)]

/-- The ranges beyond ASCII of characters that may only continue a name. -/
def nameOnlyRanges : List (Nat × Nat) := [(0xB7, 0xB7), (0x300, 0x36F), (0x203F, 0x2040)]

/-- Whether a character lies in one of the ranges. -/
def isIn (ranges : List (Nat × Nat)) (c : Char) : Bool :=
  ranges.any fun range => range.1 ≤ c.toNat && c.toNat ≤ range.2

/-- A character that may begin a name. -/
def isNameStart (c : Char) : Bool :=
  if c.toNat ≤ 128 then c.isAlpha || c == ':' || c == '_' else isIn nameStartRanges c

/-- A character that may continue a name. -/
def isNameChar (c : Char) : Bool :=
  if c.toNat ≤ 128 then c.isAlphanum || c == ':' || c == '_' || c == '-' || c == '.'
  else isIn nameStartRanges c || isIn nameOnlyRanges c

/-! ## Space and quotes -/

/-- What follows white space. -/
def skipSpace (text : List Char) : List Char := text.dropWhile isSpace

/-- What follows white space that must be there. -/
def space? : List Char → Option (List Char)
  | c :: text => if isSpace c then some (skipSpace text) else none
  | [] => none

/-- A quotation mark, and what follows it. -/
def quote? : List Char → Option (Char × List Char)
  | c :: text => if c == '"' || c == '\'' then some (c, text) else none
  | [] => none

/-- A literal between quotation marks, whatever characters it holds. -/
def quoted? (text : List Char) : Option (List Char × List Char) := do
  let (mark, text) ← quote? text
  Text.cutAt [mark] text

theorem length_le_of_skipSpace (text : List Char) : (skipSpace text).length ≤ text.length :=
  length_le_of_dropWhile isSpace text

theorem length_lt_of_space? {text rest : List Char} (h : space? text = some rest) :
    rest.length < text.length := by
  cases text with
  | nil => simp [space?] at h
  | cons c text =>
      simp only [space?, Option.ite_none_right_eq_some, Option.some.injEq] at h
      exact h.2 ▸ Nat.lt_succ_of_le (length_le_of_skipSpace text)

private theorem length_lt_of_quote? {text rest : List Char} {mark : Char}
    (h : quote? text = some (mark, rest)) : rest.length < text.length := by
  cases text with
  | nil => simp [quote?] at h
  | cons c text =>
      simp only [quote?, Option.ite_none_right_eq_some, Option.some.injEq, Prod.mk.injEq] at h
      obtain ⟨_, _, rfl⟩ := h
      exact Nat.lt_succ_self _

theorem length_lt_of_quoted? {text value rest : List Char}
    (h : quoted? text = some (value, rest)) : rest.length < text.length := by
  simp only [quoted?, Option.bind_eq_bind, Option.bind_eq_some_iff] at h
  obtain ⟨⟨mark, body⟩, hquote, hcut⟩ := h
  exact Nat.lt_of_le_of_lt (length_le_of_cutAt hcut) (length_lt_of_quote? hquote)

/-! ## Names -/

/-- A name, and what follows it. -/
def name? : List Char → Option (List Char × List Char)
  | c :: text =>
      if isNameStart c then some (c :: text.takeWhile isNameChar, text.dropWhile isNameChar)
      else none
  | [] => none

/-- A name in a namespace: the qualifier that stands for the namespace, empty for none, and the
name proper. -/
structure QName where
  qualifier : List Char
  base : List Char
  deriving DecidableEq, Repr

/-- Whether a text can be the part of a qualified name before or after the colon. -/
def startsName : List Char → Bool
  | c :: _ => isNameStart c
  | [] => false

/-- A qualified name, and what follows it. It holds one colon at most; before the colon there may
be nothing. -/
def qname? (text : List Char) : Option (QName × List Char) :=
  let run := text.takeWhile isNameChar
  let rest := text.dropWhile isNameChar
  match Text.cutAt [':'] run with
  | none => if startsName run then some (⟨[], run⟩, rest) else none
  | some (qualifier, base) =>
      if (qualifier.isEmpty || startsName qualifier) && startsName base && !base.contains ':' then
        some (⟨qualifier, base⟩, rest)
      else none

theorem length_lt_of_name? {text name rest : List Char} (h : name? text = some (name, rest)) :
    rest.length < text.length := by
  cases text with
  | nil => simp [name?] at h
  | cons c text =>
      simp only [name?, Option.ite_none_right_eq_some, Option.some.injEq, Prod.mk.injEq] at h
      obtain ⟨_, _, rfl⟩ := h
      exact Nat.lt_succ_of_le (length_le_of_dropWhile isNameChar text)

theorem length_le_of_qname? {text rest : List Char} {name : QName}
    (h : qname? text = some (name, rest)) : rest.length ≤ text.length := by
  have hrest : text.dropWhile isNameChar = rest := by
    unfold qname? at h
    grind
  exact hrest ▸ length_le_of_dropWhile isNameChar text

/-! ## Attributes, comments and instructions -/

/-- An attribute as it is written: its value has neither its quotation mark nor a `<` in it. -/
def attribute? (text : List Char) : Option ((QName × List Char) × List Char) := do
  let (name, text) ← qname? text
  let text ← Text.after? ['='] (skipSpace text)
  let (mark, text) ← quote? (skipSpace text)
  let (value, text) ← Text.cutAt [mark] text
  if value.all isLegal && !value.contains '<' then some ((name, value), text) else none

/-- A comment, and what follows it. Two hyphens end it. -/
def comment? (text : List Char) : Option (List Char) := do
  let text ← Text.after? ['<', '!', '-', '-'] text
  let (body, text) ← Text.cutAt ['-', '-', '>'] text
  let doubled := (Text.cutAt ['-', '-'] body).isSome || body.getLast? == some '-'
  if body.all isLegal && !doubled then some text else none

/-- A processing instruction, and what follows it. An XML declaration is none. -/
def instruction? (text : List Char) : Option (List Char) := do
  let body ← Text.after? ['<', '?'] text
  if (Text.after? ['x', 'm', 'l', ' '] body).isSome then none
  else
    let (_, body) ← name? body
    let (content, text) ← Text.cutAt ['?', '>'] body
    if content.all isLegal then some text else none

theorem length_lt_of_attribute? : UsesUp attribute? := by
  intro text rest value h
  simp only [attribute?, Option.bind_eq_bind, Option.bind_eq_some_iff,
    Option.ite_none_right_eq_some, Option.some.injEq, Prod.mk.injEq] at h
  obtain ⟨⟨name, afterName⟩, hname, afterSign, hsign, ⟨mark, body⟩, hquote, ⟨raw, left⟩, hcut, _, _,
    rfl⟩ := h
  have h₁ := length_le_of_qname? hname
  have h₂ := length_le_of_skipSpace afterName
  have h₃ := length_le_of_after? hsign
  have h₄ := length_le_of_skipSpace afterSign
  have h₅ := length_lt_of_quote? hquote
  have h₆ := length_le_of_cutAt hcut
  simp only at h₃ h₆ ⊢
  omega

theorem length_lt_of_comment? {text rest : List Char} (h : comment? text = some rest) :
    rest.length < text.length := by
  simp only [comment?, Option.bind_eq_bind, Option.bind_eq_some_iff,
    Option.ite_none_right_eq_some, Option.some.injEq] at h
  obtain ⟨opened, hopen, ⟨body, left⟩, hcut, _, rfl⟩ := h
  have h₁ := length_of_after? hopen
  have h₂ := length_le_of_cutAt hcut
  simp only [List.length_cons] at h₁ ⊢
  omega

theorem length_lt_of_instruction? {text rest : List Char} (h : instruction? text = some rest) :
    rest.length < text.length := by
  simp only [instruction?, Option.bind_eq_bind, Option.bind_eq_some_iff,
    Option.ite_none_left_eq_some, Option.ite_none_right_eq_some, Option.some.injEq] at h
  obtain ⟨opened, hopen, _, ⟨name, body⟩, hname, ⟨content, left⟩, hcut, _, rfl⟩ := h
  have h₁ := length_of_after? hopen
  have h₂ := length_lt_of_name? hname
  have h₃ := length_le_of_cutAt hcut
  simp only [List.length_cons] at h₁ h₃ ⊢
  omega

end ClusterEvidence.Xml
