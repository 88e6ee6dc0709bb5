/-!
# Characters and positions of a YAML text

A line ends with a carriage return, a line feed, both, or one of three breaks of Unicode. Blanks are
spaces and tabs. A position counts characters from the start of the text, lines, and columns.
-/

namespace ClusterEvidence.Yaml

/-! ## Characters -/

/-- Whether a character may stand in a text. -/
def isAllowed (c : Char) : Bool :=
  c == '\t' || c == '\n' || c == '\r' || (' ' ≤ c && c ≤ '~') || c == '\u0085' ||
    ('\u00a0' ≤ c && c != '\ufffe' && c != '\uffff')

/-- A space or a tab. -/
def isBlank (c : Char) : Bool := c == ' ' || c == '\t'

/-- A character that ends a line. -/
def isBreak (c : Char) : Bool :=
  c == '\r' || c == '\n' || c == '\u0085' || c == '\u2028' || c == '\u2029'

/-- A character of names of anchors, directives and tag handles. -/
def isNameChar (c : Char) : Bool := c.isAlphanum || c == '_' || c == '-'

/-- Whether a text is at its end, at a blank or at the end of a line. -/
def atGap : List Char → Bool
  | [] => true
  | c :: _ => isBlank c || isBreak c

/-- Whether a text begins with the line `---` or `...`, or with one of them and a gap. -/
def atDocumentMark : List Char → Bool
  | '-' :: '-' :: '-' :: rest => atGap rest
  | '.' :: '.' :: '.' :: rest => atGap rest
  | _ => false

/-- A line break as the characters that it means: line feeds, except for the line and the paragraph
separator. -/
def breakText (c : Char) : List Char :=
  if c == '\u2028' || c == '\u2029' then [c] else ['\n']

/-! ## Positions -/

/-- A place in a text. -/
structure Position where
  index : Nat
  line : Nat
  column : Nat
  deriving DecidableEq, Repr

namespace Position

/-- The place where a text starts. -/
def start : Position := ⟨0, 0, 0⟩

/-- The place after characters none of which ends a line. -/
def skip (position : Position) (count : Nat) : Position :=
  { position with index := position.index + count, column := position.column + count }

/-- The place after a line break of so many characters. -/
def nextLine (position : Position) (count : Nat) : Position :=
  ⟨position.index + count, position.line + 1, 0⟩

end Position

end ClusterEvidence.Yaml
