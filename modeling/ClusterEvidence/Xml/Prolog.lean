import ClusterEvidence.Xml.Entity

/-!
# The prolog of a document

What stands before the root element: the XML declaration, comments and instructions, and a document
type with an internal subset. Of the subset only the entities count whose text is given; the other
declarations are passed over.
-/

namespace ClusterEvidence.Xml

/-! ## The declaration -/

/-- White space that must be there unless the declaration ends. -/
def declarationSpace? (text : List Char) : Option (List Char) :=
  match space? text with
  | some rest => some rest
  | none => if text.isEmpty || (Text.after? ['?', '>'] text).isSome then some text else none

/-- Passes over an attribute whose name begins with a word, if it is there. -/
def optionalAttribute (word : String) (text : List Char) : Option (List Char) :=
  if (Text.after? word.toList text).isSome then (attribute? text).map (·.2) else some text

/-- The XML declaration after its `<?xml`. -/
def declaration? (text : List Char) : Option (List Char) := do
  let text ← declarationSpace? text
  let _ ← Text.after? "version".toList text
  let (_, text) ← attribute? text
  let text ← declarationSpace? text
  let encoded := (Text.after? "encoding".toList text).isSome
  let text ← optionalAttribute "encoding" text
  let text ← if encoded then declarationSpace? text else some text
  let text ← optionalAttribute "standalone" text
  Text.after? ['?', '>'] (skipSpace text)

/-! ## Comments and instructions -/

/-- A comment or an instruction. -/
def miscellaneous? (text : List Char) : Option (Unit × List Char) :=
  match text with
  | '<' :: '!' :: '-' :: '-' :: _ => (comment? text).map fun rest => ((), rest)
  | '<' :: '?' :: _ => (instruction? text).map fun rest => ((), rest)
  | _ => none

private theorem length_lt_of_miscellaneous? : Text.UsesUp miscellaneous? := by
  intro text rest _ h
  unfold miscellaneous? at h
  split at h <;> simp only [Option.map_eq_some_iff, Prod.mk.injEq, reduceCtorEq] at h
  · obtain ⟨_, hcomment, _, rfl⟩ := h
    exact length_lt_of_comment? hcomment
  · obtain ⟨_, hinstruction, _, rfl⟩ := h
    exact length_lt_of_instruction? hinstruction

/-- A comment or an instruction after white space. -/
def spacedMiscellaneous? (text : List Char) : Option (Unit × List Char) :=
  miscellaneous? (skipSpace text)

private theorem length_lt_of_spacedMiscellaneous? : Text.UsesUp spacedMiscellaneous? :=
  fun h => Nat.lt_of_lt_of_le (length_lt_of_miscellaneous? h) (length_le_of_skipSpace _)

/-- What follows white space, where neither a comment nor an instruction does. -/
def miscellaneousEnd? (text : List Char) : Option (List Char) :=
  match skipSpace text with
  | '<' :: '!' :: '-' :: '-' :: _ => none
  | '<' :: '?' :: _ => none
  | rest => some rest

/-- What follows white space, comments and instructions. -/
def skipMiscellaneous (text : List Char) : Option (List Char) :=
  (Text.readUntil miscellaneousEnd? spacedMiscellaneous? length_lt_of_spacedMiscellaneous?
    text).map (·.2)

/-! ## The document type -/

/-- A reference to an external subset or entity; nothing if there is none. -/
def externalId? (text : List Char) : Option (Option (List Char)) :=
  match Text.after? "SYSTEM".toList text, Text.after? "PUBLIC".toList text with
  | some rest, _ => do
      let rest ← space? rest
      let (_, rest) ← quoted? rest
      some (some rest)
  | none, some rest => do
      let rest ← space? rest
      let (_, rest) ← quoted? rest
      let rest ← space? rest
      let (_, rest) ← quoted? rest
      some (some rest)
  | none, none => some none

/-- Passes over the mark of an entity that is not parsed, if it is there. -/
def unparsedMark? (text : List Char) : Option (List Char) :=
  match Text.after? "NDATA".toList (skipSpace text) with
  | none => some text
  | some rest => do
      let rest ← space? rest
      let (_, rest) ← name? rest
      some rest

/-- Passes over what may follow the place of an entity that is kept elsewhere. -/
def afterExternalId? (general : Bool) (text : List Char) : Option (List Char) :=
  if general then unparsedMark? text else some text

/-- The definition of an entity: its text, unless it is kept elsewhere. -/
def definition? (general : Bool) (text : List Char) : Option (Option (List Char) × List Char) :=
  match quote? text with
  | some _ => (quoted? text).map fun (value, rest) => (some value, rest)
  | none => do
      let found ← externalId? text
      let rest ← found
      let rest ← afterExternalId? general rest
      some (none, rest)

/-- Whether an entity is one for content, and not for declarations, and its declaration from the
name on. -/
def entityKind? (text : List Char) : Option (Bool × List Char) :=
  match text with
  | '%' :: rest => (space? rest).map fun rest => (false, rest)
  | _ => some (true, text)

/-- An entity declaration after its `<!ENTITY`: the entity, if its text is given. Content may refer
to one of either kind. -/
def entity? (text : List Char) : Option (Entities × List Char) := do
  let text ← space? text
  let (general, text) ← entityKind? text
  let (name, text) ← name? text
  let text ← space? text
  let (value, text) ← definition? general text
  let text ← Text.after? ['>'] (skipSpace text)
  some ((value.map fun value => (name, value)).toList, text)

/-- Whether another declaration begins here. -/
def isOtherDeclaration (text : List Char) : Bool :=
  ["<!ELEMENT", "<!ATTLIST", "<!NOTATION"].any fun word =>
    (Text.after? word.toList text).isSome

/-- One part of the internal subset: the entities that it declares. -/
def subsetPart? (text : List Char) : Option (Entities × List Char) :=
  let text := skipSpace text
  match Text.after? "<!ENTITY".toList text with
  | some rest => entity? rest
  | none =>
      match miscellaneous? text with
      | some (_, rest) => some ([], rest)
      | none =>
          if isOtherDeclaration text then
            (Text.cutAt ['>'] text).map fun (_, rest) => ([], rest)
          else none

private theorem length_lt_of_externalId? {text rest : List Char}
    (h : externalId? text = some (some rest)) : rest.length < text.length := by
  unfold externalId? at h
  split at h
  · next afterWord hword =>
      simp only [Option.bind_eq_bind, Option.bind_eq_some_iff, Option.some.injEq] at h
      obtain ⟨afterSpace, hspace, ⟨_, left⟩, hquoted, rfl⟩ := h
      exact Nat.lt_of_lt_of_le
        (Nat.lt_trans (length_lt_of_quoted? hquoted) (length_lt_of_space? hspace))
        (Text.length_le_of_after? hword)
  · next afterWord _ hword =>
      simp only [Option.bind_eq_bind, Option.bind_eq_some_iff, Option.some.injEq] at h
      obtain ⟨_, hspace, ⟨_, _⟩, hquoted, _, hnext, ⟨_, left⟩, hlast, rfl⟩ := h
      exact Nat.lt_of_lt_of_le
        (Nat.lt_trans (length_lt_of_quoted? hlast) (Nat.lt_trans (length_lt_of_space? hnext)
          (Nat.lt_trans (length_lt_of_quoted? hquoted) (length_lt_of_space? hspace))))
        (Text.length_le_of_after? hword)
  · simp at h

private theorem length_le_of_unparsedMark? {text rest : List Char}
    (h : unparsedMark? text = some rest) : rest.length ≤ text.length := by
  unfold unparsedMark? at h
  split at h
  · exact Nat.le_of_eq (congrArg List.length (Option.some.inj h).symm)
  · next afterWord hword =>
      simp only [Option.bind_eq_bind, Option.bind_eq_some_iff, Option.some.injEq] at h
      obtain ⟨_, hspace, ⟨_, left⟩, hname, rfl⟩ := h
      exact Nat.le_trans
        (Nat.le_of_lt (Nat.lt_trans (length_lt_of_name? hname) (length_lt_of_space? hspace)))
        (Nat.le_trans (Text.length_le_of_after? hword) (length_le_of_skipSpace text))

private theorem length_le_of_afterExternalId? {general : Bool} {text rest : List Char}
    (h : afterExternalId? general text = some rest) : rest.length ≤ text.length := by
  unfold afterExternalId? at h
  split at h
  · exact length_le_of_unparsedMark? h
  · exact Nat.le_of_eq (congrArg List.length (Option.some.inj h).symm)

private theorem length_lt_of_definition? {general : Bool} {text rest : List Char}
    {value : Option (List Char)} (h : definition? general text = some (value, rest)) :
    rest.length < text.length := by
  unfold definition? at h
  split at h
  · simp only [Option.map_eq_some_iff, Prod.mk.injEq] at h
    obtain ⟨⟨_, left⟩, hquoted, _, rfl⟩ := h
    exact length_lt_of_quoted? hquoted
  · simp only [Option.bind_eq_bind, Option.bind_eq_some_iff, Option.some.injEq,
      Prod.mk.injEq] at h
    obtain ⟨found, hfound, afterId, rfl, left, hafter, _, rfl⟩ := h
    exact Nat.lt_of_le_of_lt (length_le_of_afterExternalId? hafter)
      (length_lt_of_externalId? hfound)

private theorem length_le_of_entityKind? {text rest : List Char} {general : Bool}
    (h : entityKind? text = some (general, rest)) : rest.length ≤ text.length := by
  unfold entityKind? at h
  split at h
  · simp only [Option.map_eq_some_iff, Prod.mk.injEq] at h
    obtain ⟨_, hspace, _, rfl⟩ := h
    exact Nat.le_succ_of_le (Nat.le_of_lt (length_lt_of_space? hspace))
  · simp only [Option.some.injEq, Prod.mk.injEq] at h
    exact h.2 ▸ Nat.le_refl _

private theorem length_lt_of_entity? : Text.UsesUp entity? := by
  intro text rest entities h
  simp only [entity?, Option.bind_eq_bind, Option.bind_eq_some_iff, Option.some.injEq,
    Prod.mk.injEq] at h
  obtain ⟨start, hstart, ⟨general, afterKind⟩, hkind, ⟨name, afterName⟩, hname, afterSpace, hspace,
    ⟨value, afterValue⟩, hvalue, left, hclose, _, rfl⟩ := h
  have h₁ := length_lt_of_space? hstart
  have h₂ := length_le_of_entityKind? hkind
  have h₃ := length_lt_of_name? hname
  have h₄ := length_lt_of_space? hspace
  have h₅ := length_lt_of_definition? hvalue
  have h₆ := Text.length_le_of_after? hclose
  have h₇ := length_le_of_skipSpace afterValue
  simp only at h₃ h₄ h₆ ⊢
  omega

private theorem length_lt_of_subsetPart? : Text.UsesUp subsetPart? := by
  intro text rest entities h
  have hskip := length_le_of_skipSpace text
  unfold subsetPart? at h
  simp only at h
  split at h
  · next afterWord hword =>
      have h₁ := length_lt_of_entity? h
      have h₂ := Text.length_le_of_after? hword
      omega
  · split at h
    · next left hmiscellaneous =>
        simp only [Option.some.injEq, Prod.mk.injEq] at h
        exact h.2 ▸ Nat.lt_of_lt_of_le (length_lt_of_miscellaneous? hmiscellaneous) hskip
    · simp only [Option.ite_none_right_eq_some, Option.map_eq_some_iff, Prod.mk.injEq] at h
      obtain ⟨_, ⟨before, left⟩, hcut, _, rfl⟩ := h
      have := Text.length_add_le_of_cutAt hcut
      simp only [List.length_cons] at this ⊢
      omega

/-- The end of the internal subset. -/
def subsetEnd? (text : List Char) : Option (List Char) :=
  match skipSpace text with
  | ']' :: rest => Text.after? ['>'] (skipSpace rest)
  | _ => none

/-- A document type after its `<!DOCTYPE`: the entities that it declares. -/
def documentType? (text : List Char) : Option (Entities × List Char) := do
  let text ← space? text
  let (_, text) ← name? text
  let text := skipSpace text
  let found ← externalId? text
  match skipSpace (found.getD text) with
  | '>' :: rest => some ([], rest)
  | '[' :: rest => do
      let (entities, rest) ← Text.readUntil subsetEnd? subsetPart? length_lt_of_subsetPart? rest
      some (entities.flatten, rest)
  | _ => none

/-! ## The whole prolog -/

/-- The declared entities, and what follows the prolog. -/
def prolog? (text : List Char) : Option (Entities × List Char) := do
  let text ←
    if (Text.after? "<?xml ".toList text).isSome then declaration? (text.drop 5) else some text
  let text ← skipMiscellaneous text
  match Text.after? "<!DOCTYPE".toList text with
  | none => some ([], text)
  | some rest => do
      let (entities, rest) ← documentType? rest
      let rest ← skipMiscellaneous rest
      some (entities, rest)

end ClusterEvidence.Xml
