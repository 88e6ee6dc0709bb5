import ClusterEvidence.Proofs.Filter.Quoting

/-!
# The grammar of filters

A filter is one or more stages with `|` in between. A stage is `empty`, a path, or a path and a
literal with `=` in between, with white space around each of these. A path is a dot alone or one or
more segments of which the first begins with a dot. White space is that of Unicode; what a JSON text
is, and which string a string literal stands for, is left to the JSON reader.

Each relation holds of a text and what it denotes. None of them says how a text is read; that the
texts of the grammar are read as what they denote is shown in the modules that follow.

## Main results

* `DerivesPath.balanced` — paths have no `|` and no `=` outside string literals.
-/

namespace ClusterEvidence.Filter

open Text (Blank Begins Closes isBlank)

/-! ## Paths -/

/-- A string literal and the string that it stands for. -/
def Literal (text : List Char) (s : String) : Prop :=
  ∃ body, text = '"' :: (body ++ ['"']) ∧ Json.readString (String.ofList text) = .ok (.string s)

/-- A decimal digit and what it counts. -/
def IsDigit (c : Char) (n : Nat) : Prop := n < 10 ∧ c.toNat = '0'.toNat + n

/-- One or more decimal digits and the number that they write: the last digit counts once, and what
stands in front of it ten times. -/
inductive IsNumeral : List Char → Nat → Prop where
  | one {c n} (hdigit : IsDigit c n) : IsNumeral [c] n
  | more {digits n c k} (hdigits : IsNumeral digits n) (hdigit : IsDigit c k) :
      IsNumeral (digits ++ [c]) (10 * n + k)

/-- A numeral after at most one minus, of a number that fits in sixty-four bits with sign. -/
inductive IsIndex : List Char → Int → Prop where
  | positive {digits n} (hdigits : IsNumeral digits n) (hfits : n < Nat.pow 2 63) :
      IsIndex digits n
  | negative {digits n} (hdigits : IsNumeral digits n) (hfits : n ≤ Nat.pow 2 63) :
      IsIndex ('-' :: digits) (-(n : Int))

/-- What stands in brackets, with them. -/
inductive DerivesBracket : List Char → Step → Prop where
  | iterate {before} (hbefore : Blank before) : DerivesBracket ('[' :: (before ++ [']'])) .iterate
  | field {before literal key after} (hbefore : Blank before) (hliteral : Literal literal key)
      (hafter : Blank after) :
      DerivesBracket ('[' :: (before ++ (literal ++ (after ++ [']'])))) (.field key)
  | index {before digits position after} (hbefore : Blank before)
      (hindex : IsIndex digits position) (hafter : Blank after) :
      DerivesBracket ('[' :: (before ++ (digits ++ (after ++ [']'])))) (.index position)

/-- One segment of a path. -/
inductive DerivesSegment : List Char → Step → Prop where
  | name {first name} (hfirst : first.isAlpha = true ∨ first = '_')
      (hname : ∀ c ∈ name, c.isAlphanum = true ∨ c = '_') :
      DerivesSegment ('.' :: first :: name) (.field (String.ofList (first :: name)))
  | literal {literal key} (hliteral : Literal literal key) :
      DerivesSegment ('.' :: literal) (.field key)
  | bracket {text step} (hbracket : DerivesBracket text step) : DerivesSegment text step
  | dotted {text step} (hbracket : DerivesBracket text step) : DerivesSegment ('.' :: text) step

/-- One or more segments. -/
inductive DerivesSegments : List Char → List Step → Prop where
  | one {text step} (h : DerivesSegment text step) : DerivesSegments text [step]
  | more {text step rest steps} (h : DerivesSegment text step)
      (hrest : DerivesSegments rest steps) :
      DerivesSegments (text ++ rest) (step :: steps)

/-- A dot alone, which has no steps, or segments of which the first begins with a dot. -/
inductive DerivesPath : List Char → List Step → Prop where
  | identity : DerivesPath ['.'] []
  | segments {text steps} (h : DerivesSegments text steps) (hdot : text.head? = some '.') :
      DerivesPath text steps

/-! ## Stages and filters -/

/-- One stage. -/
inductive DerivesStage : List Char → Stage → Prop where
  | empty {before after} (hbefore : Blank before) (hafter : Blank after) :
      DerivesStage (before ++ ['e', 'm', 'p', 't', 'y'] ++ after) .empty
  | path {before path steps after} (hbefore : Blank before) (hpath : DerivesPath path steps)
      (hafter : Blank after) :
      DerivesStage (before ++ path ++ after) (.path steps)
  | assign {before path steps middle next json value after} (hbefore : Blank before)
      (hpath : DerivesPath path steps) (hmiddle : Blank middle) (hnext : Blank next)
      (hjson : Json.readString (String.ofList json) = .ok value) (hafter : Blank after) :
      DerivesStage (before ++ path ++ middle ++ '=' :: (next ++ json ++ after))
        (.assign steps value)

/-- One or more stages with `|` in between. -/
inductive DerivesFilter : List Char → List Stage → Prop where
  | one {text stage} (h : DerivesStage text stage) : DerivesFilter text [stage]
  | more {text stage rest stages} (h : DerivesStage text stage)
      (hrest : DerivesFilter rest stages) :
      DerivesFilter (text ++ '|' :: rest) (stage :: stages)

/-! ## Texts of the grammar are balanced -/

private theorem Literal.balanced {text : List Char} {s : String} (h : Literal text s) :
    Balanced text := by
  obtain ⟨body, rfl, hread⟩ := h
  exact .literal (enclosed_of_literal hread) .nil

/-- A text of characters of a class that leaves out what quotes and what cuts. -/
theorem balanced_of_class {p : Char → Bool} {text : List Char} (h : ∀ c ∈ text, p c = true)
    (hp : p '"' = false ∧ p '|' = false ∧ p '=' = false) : Balanced text := by
  refine balanced_of_forall fun c hc => ?_
  have hclass := h c hc
  refine ⟨?_, ?_, ?_⟩
  · rintro rfl
    rw [hp.1] at hclass
    cases hclass
  · rintro rfl
    rw [hp.2.1] at hclass
    cases hclass
  · rintro rfl
    rw [hp.2.2] at hclass
    cases hclass

theorem balanced_of_blank {text : List Char} (h : Blank text) : Balanced text :=
  balanced_of_class h (by decide)

theorem isDigit_iff {c : Char} {n : Nat} :
    IsDigit c n ↔ c.isDigit = true ∧ c.toNat - '0'.toNat = n := by
  have hzero : '0'.toNat = 48 := rfl
  have hrange : c.isDigit = true ↔ 48 ≤ c.toNat ∧ c.toNat ≤ 57 := by
    simp only [Char.isDigit, Bool.and_eq_true, decide_eq_true_eq, ge_iff_le,
      UInt32.le_iff_toNat_le]
    rfl
  rw [IsDigit, hrange, hzero]
  omega

theorem IsNumeral.isDigit {digits : List Char} {n : Nat} (h : IsNumeral digits n) :
    ∀ c ∈ digits, c.isDigit = true := by
  induction h with
  | one hdigit => simpa using (isDigit_iff.1 hdigit).1
  | more _ hdigit ih =>
      intro d hd
      rcases List.mem_append.1 hd with hd | hd
      · exact ih d hd
      · rw [List.mem_singleton.1 hd]
        exact (isDigit_iff.1 hdigit).1

theorem IsNumeral.ne_nil {digits : List Char} {n : Nat} (h : IsNumeral digits n) : digits ≠ [] := by
  cases h <;> simp

private theorem IsNumeral.balanced {digits : List Char} {n : Nat} (h : IsNumeral digits n) :
    Balanced digits :=
  balanced_of_class h.isDigit (by decide)

private theorem IsIndex.balanced {text : List Char} {position : Int} (h : IsIndex text position) :
    Balanced text := by
  cases h with
  | positive hdigits _ => exact hdigits.balanced
  | negative hdigits _ =>
      exact .character (by decide) (by decide) (by decide) hdigits.balanced

private theorem DerivesBracket.balanced {text : List Char} {step : Step}
    (h : DerivesBracket text step) :
    Balanced text := by
  have hclose : Balanced [']'] := .character (by decide) (by decide) (by decide) .nil
  cases h with
  | iterate hbefore =>
      exact .character (by decide) (by decide) (by decide)
        ((balanced_of_blank hbefore).append hclose)
  | field hbefore hliteral hafter =>
      have hinner := hliteral.balanced.append ((balanced_of_blank hafter).append hclose)
      exact .character (by decide) (by decide) (by decide)
        ((balanced_of_blank hbefore).append hinner)
  | index hbefore hindex hafter =>
      have hinner := hindex.balanced.append ((balanced_of_blank hafter).append hclose)
      exact .character (by decide) (by decide) (by decide)
        ((balanced_of_blank hbefore).append hinner)

theorem isNameStart_iff {c : Char} : isNameStart c = true ↔ c.isAlpha = true ∨ c = '_' := by
  simp [isNameStart]

theorem isNameChar_iff {c : Char} : isNameChar c = true ↔ c.isAlphanum = true ∨ c = '_' := by
  simp [isNameChar]

/-- The first character of a name may stand anywhere in it. -/
theorem isNameChar_of_isNameStart {c : Char} (h : isNameStart c = true) : isNameChar c = true := by
  simp only [isNameStart, isNameChar, Char.isAlphanum, Bool.or_eq_true] at h ⊢
  rcases h with h | h
  · exact .inl (.inl h)
  · exact .inr h

/-- An identifier has characters of names only. -/
theorem isNameChar_of_mem {first : Char} {name : List Char}
    (hfirst : first.isAlpha = true ∨ first = '_')
    (hname : ∀ c ∈ name, c.isAlphanum = true ∨ c = '_') :
    ∀ c ∈ first :: name, isNameChar c = true :=
  List.forall_mem_cons.2 ⟨isNameChar_of_isNameStart (isNameStart_iff.2 hfirst),
    fun c hc => isNameChar_iff.2 (hname c hc)⟩

private theorem DerivesSegment.balanced {text : List Char} {step : Step}
    (h : DerivesSegment text step) :
    Balanced text := by
  cases h with
  | @name first name hfirst hname =>
      have hall := isNameChar_of_mem hfirst hname
      exact .character (by decide) (by decide) (by decide) (balanced_of_class hall (by decide))
  | literal hliteral => exact .character (by decide) (by decide) (by decide) hliteral.balanced
  | bracket hbracket => exact hbracket.balanced
  | dotted hbracket => exact .character (by decide) (by decide) (by decide) hbracket.balanced

private theorem DerivesSegments.balanced {text : List Char} {steps : List Step}
    (h : DerivesSegments text steps) : Balanced text := by
  induction h with
  | one h => exact h.balanced
  | more h _ ih => exact h.balanced.append ih

/-- Paths have no `|` and no `=` outside string literals. -/
theorem DerivesPath.balanced {text : List Char} {steps : List Step} (h : DerivesPath text steps) :
    Balanced text := by
  cases h with
  | identity => exact .character (by decide) (by decide) (by decide) .nil
  | segments h _ => exact h.balanced

/-! ## The ends of a path -/

/-- A segment begins with a dot or a bracket. -/
private theorem DerivesSegment.head {text : List Char} {step : Step}
    (h : DerivesSegment text step) :
    text.head? = some '.' ∨ text.head? = some '[' := by
  have hbracket : ∀ {text step}, DerivesBracket text step → text.head? = some '[' := by
    intro text step h
    cases h <;> rfl
  cases h with
  | name => exact .inl rfl
  | literal => exact .inl rfl
  | bracket h => exact .inr (hbracket h)
  | dotted => exact .inl rfl

theorem DerivesSegments.head {text : List Char} {steps : List Step}
    (h : DerivesSegments text steps) : text.head? = some '.' ∨ text.head? = some '[' := by
  cases h with
  | one h => exact h.head
  | more h _ =>
      rw [List.head?_append]
      rcases h.head with hhead | hhead
      · exact .inl (by rw [hhead]; rfl)
      · exact .inr (by rw [hhead]; rfl)

theorem DerivesPath.head {text : List Char} {steps : List Step} (h : DerivesPath text steps) :
    text.head? = some '.' := by
  cases h with
  | identity => rfl
  | segments _ hdot => exact hdot

/-- A character with which a path can end. -/
def isPathEnd (c : Char) : Bool := isNameChar c || c == '.' || c == '"' || c == ']'

/-- A path can end like this text. -/
def EndsPath (text : List Char) : Prop := ∀ c ∈ text.getLast?, isPathEnd c = true

private theorem endsPath_concat {text : List Char} {c : Char} (h : isPathEnd c = true) :
    EndsPath (text ++ [c]) := by
  intro d hd
  rw [List.getLast?_concat, Option.mem_some_iff] at hd
  exact hd ▸ h

private theorem DerivesSegment.endsPath {text : List Char} {step : Step}
    (h : DerivesSegment text step) :
    EndsPath text := by
  have hbracket : ∀ {text step}, DerivesBracket text step → ∃ front, text = front ++ [']'] := by
    intro text step h
    cases h with
    | iterate => exact ⟨'[' :: _, rfl⟩
    | @field before literal key after => exact ⟨'[' :: (before ++ (literal ++ after)), by simp⟩
    | @index before digits position after => exact ⟨'[' :: (before ++ (digits ++ after)), by simp⟩
  cases h with
  | @name first name hfirst hname =>
      have hall := isNameChar_of_mem hfirst hname
      intro c hc
      rw [Option.mem_def, List.getLast?_cons_cons] at hc
      simp [isPathEnd, hall c (List.mem_of_getLast? hc)]
  | literal hliteral =>
      obtain ⟨body, rfl, _⟩ := hliteral
      have hquote : EndsPath (('.' :: '"' :: body) ++ ['"']) := endsPath_concat (by decide)
      exact hquote
  | bracket h =>
      obtain ⟨front, rfl⟩ := hbracket h
      exact endsPath_concat (by decide)
  | dotted h =>
      obtain ⟨front, rfl⟩ := hbracket h
      have hclose : EndsPath (('.' :: front) ++ [']']) := endsPath_concat (by decide)
      exact hclose

private theorem DerivesSegments.endsPath {text : List Char} {steps : List Step}
    (h : DerivesSegments text steps) : EndsPath text := by
  induction h with
  | one h => exact h.endsPath
  | @more text step rest steps h hrest ih =>
      intro c hc
      rw [Option.mem_def, List.getLast?_append, Option.or_eq_some_iff] at hc
      rcases hc with hc | ⟨hnone, _⟩
      · exact ih c hc
      · rw [List.getLast?_eq_none_iff.1 hnone] at hrest
        rcases hrest.head with hhead | hhead <;> cases hhead

theorem DerivesPath.endsPath {text : List Char} {steps : List Step} (h : DerivesPath text steps) :
    EndsPath text := by
  cases h with
  | identity =>
      have hdot : EndsPath ([] ++ ['.']) := endsPath_concat (by decide)
      exact hdot
  | segments h _ => exact h.endsPath

theorem visible_isNameChar : Text.Visible isNameChar :=
  Text.visible_of_marks ['_'] (by simp [isNameChar]) (by simp)

/-- A path does not end with white space. -/
theorem DerivesPath.closes {text : List Char} {steps : List Step} (h : DerivesPath text steps) :
    Closes text := by
  intro c hc
  have hend := h.endsPath c hc
  simp only [isPathEnd, Bool.or_eq_true, beq_iff_eq] at hend
  rcases hend with ((hname | rfl) | rfl) | rfl
  · exact visible_isNameChar.isBlank hname
  · decide
  · decide
  · decide

end ClusterEvidence.Filter
