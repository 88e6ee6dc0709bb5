import ClusterEvidence.Yaml.Fault
import ClusterEvidence.Yaml.Position

/-!
# Scalars of a YAML text

A plain scalar ends where something else has to begin; a quoted one ends at its quote. Both go on
over line breaks: one break stands for a space, and of several all but the first are kept.

A block scalar consists of the lines that are indented as far as its first one, or as its header
says. In a folded one, too, a break between two lines that do not start with a blank stands for a
space. The header also says what becomes of the breaks at the end.

Every function takes a text and its position, and gives what is left and where that starts. What was
read of a scalar is collected last character first.
-/

namespace ClusterEvidence.Yaml

/-- What was read from a text, and what is left of the text. -/
structure Scanned (α : Type) where
  value : α
  position : Position
  rest : List Char

/-! ## Gaps -/

/-- White space between two pieces of a scalar. -/
structure Gap where
  /-- Blanks before the first line break. -/
  blanks : List Char
  /-- The first line break, empty when it was escaped; none as long as the line goes on. -/
  firstBreak : Option (List Char)
  /-- The line breaks after the first. -/
  breaks : List Char

namespace Gap

/-- No white space. -/
def none : Gap := ⟨[], .none, []⟩

/-- Whether there is no white space. -/
def isNone (gap : Gap) : Bool := gap.blanks.isEmpty && gap.firstBreak.isNone

/-- Whether the gap reaches into another line. -/
def crosses (gap : Gap) : Bool := gap.firstBreak.isSome

/-- The gap with another blank. Those that start a line do not count. -/
def addBlank (gap : Gap) (c : Char) : Gap :=
  if gap.crosses then gap else { gap with blanks := gap.blanks ++ [c] }

/-- The gap with another line break. -/
def addBreak (gap : Gap) (c : Char) : Gap :=
  if gap.crosses then { gap with breaks := gap.breaks ++ breakText c }
  else ⟨[], some (breakText c), []⟩

/-- What a gap stands for in a scalar. -/
def text (gap : Gap) : List Char :=
  match gap.firstBreak with
  | .none => gap.blanks
  | some ['\n'] => if gap.breaks.isEmpty then [' '] else gap.breaks
  | some first => first ++ gap.breaks

/-- What was read of a scalar with a gap after it, last character first. -/
def after (gap : Gap) (done : List Char) : List Char := gap.text.reverse ++ done

end Gap

/-! ## Plain scalars -/

/-- Where a scalar stands: within a flow collection, or in lines indented by at least so much. -/
structure Surroundings where
  inFlow : Bool
  indent : Nat

/-- An indicator that starts, ends or separates flow collections. -/
def isFlowIndicator (c : Char) : Bool :=
  c == ',' || c == '[' || c == ']' || c == '\x7b' || c == '\x7d'

/-- Whether a plain scalar ends in front of a text. -/
def endsPlain (inFlow : Bool) : List Char → Bool
  | ':' :: rest => atGap rest
  | c :: _ => inFlow && isFlowIndicator c
  | [] => true

/-- Whether a text begins with a colon and an indicator that may not follow it in a flow
collection. -/
def atBadColon : List Char → Bool
  | ':' :: c :: _ => c == '?' || isFlowIndicator c
  | _ => false

/-- Whether a plain scalar ends in front of a text after a gap. -/
def endsAfterGap (place : Surroundings) (position : Position) (gap : Gap) (text : List Char) :
    Bool :=
  (gap.crosses && !place.inFlow && position.column < place.indent) ||
    (position.column == 0 && atDocumentMark text) || (!gap.isNone && text.head? == some '#')

/-- Reads on in a plain scalar of which some characters were read, and says whether it ended in
another line. -/
def plainRest (place : Surroundings) (done : List Char) (gap : Gap) (position : Position) :
    List Char → Except Fault (Scanned (List Char × Bool))
  | [] => .ok ⟨(done.reverse, gap.crosses), position, []⟩
  | '\r' :: '\n' :: rest =>
      plainRest place done (gap.addBreak '\n') (position.nextLine 2) rest
  | c :: rest =>
      if isBlank c then
        if gap.crosses && position.column < place.indent && c == '\t' then .error .tabIndent
        else plainRest place done (gap.addBlank c) (position.skip 1) rest
      else if isBreak c then
        plainRest place done (gap.addBreak c) (position.nextLine 1) rest
      else if endsAfterGap place position gap (c :: rest) then
        .ok ⟨(done.reverse, gap.crosses), position, c :: rest⟩
      else if place.inFlow && atBadColon (c :: rest) then .error .unexpectedColon
      else if endsPlain place.inFlow (c :: rest) then
        .ok ⟨(done.reverse, gap.crosses), position, c :: rest⟩
      else plainRest place (c :: gap.after done) .none (position.skip 1) rest

/-- Reads a plain scalar. -/
def plainScalar (place : Surroundings) (position : Position) (text : List Char) :
    Except Fault (Scanned (List Char × Bool)) :=
  plainRest place [] .none position text

/-! ## Quoted scalars -/

/-- The value of a hexadecimal digit. -/
def hexDigit? (c : Char) : Option Nat :=
  if c.isDigit then some (c.toNat - '0'.toNat)
  else if 'a' ≤ c && c ≤ 'f' then some (c.toNat - 'a'.toNat + 10)
  else if 'A' ≤ c && c ≤ 'F' then some (c.toNat - 'A'.toNat + 10)
  else none

/-- The character of a number written in hexadecimal digits. -/
def charOfDigits (digits : List Char) (count : Nat) : Except Fault Char :=
  match digits.mapM hexDigit? with
  | some values =>
      let code := values.foldl (fun code value => code * 16 + value) 0
      if values.length = count && code.isValidChar then .ok (Char.ofNat code)
      else .error .malformedEscape
  | none => .error .malformedEscape

/-- What the letter after a backslash stands for. -/
def escaped? : Char → Option Char
  | '0' => some '\x00'
  | 'a' => some '\x07'
  | 'b' => some '\x08'
  | 't' => some '\t'
  | '\t' => some '\t'
  | 'n' => some '\n'
  | 'v' => some '\x0b'
  | 'f' => some '\x0c'
  | 'r' => some '\r'
  | 'e' => some '\x1b'
  | ' ' => some ' '
  | '"' => some '"'
  | '/' => some '/'
  | '\\' => some '\\'
  | 'N' => some '\u0085'
  | '_' => some '\u00a0'
  | 'L' => some '\u2028'
  | 'P' => some '\u2029'
  | _ => none

/-- The number of digits of a character code after a letter. -/
def codeLength? : Char → Option Nat
  | 'x' => some 2
  | 'u' => some 4
  | 'U' => some 8
  | _ => none

/-- The character that a letter and what follows it mean after a backslash, and how many of the
characters that follow belong to it. -/
def escape (letter : Char) (rest : List Char) : Except Fault (Char × Nat) :=
  match escaped? letter, codeLength? letter with
  | some c, _ => .ok (c, 0)
  | none, some count => (charOfDigits (rest.take count) count).map (·, count)
  | none, none => .error .unknownEscape

/-- Reads on in a scalar in double quotes of which some characters were read. -/
def doubleRest (done : List Char) (gap : Gap) (position : Position) (text : List Char) :
    Except Fault (Scanned (List Char)) :=
  match text with
  | [] => .error .unclosedQuote
  | '\r' :: '\n' :: rest => doubleRest done (gap.addBreak '\n') (position.nextLine 2) rest
  | c :: rest =>
      if isBlank c then doubleRest done (gap.addBlank c) (position.skip 1) rest
      else if isBreak c then doubleRest done (gap.addBreak c) (position.nextLine 1) rest
      else if position.column = 0 && atDocumentMark (c :: rest) then .error .documentInQuotes
      else
        let done := gap.after done
        if c = '"' then .ok ⟨done.reverse, position.skip 1, rest⟩
        else if c = '\\' then
          match rest with
          | [] => .error .unclosedQuote
          | '\r' :: '\n' :: rest =>
              doubleRest done ⟨[], some [], []⟩ ((position.skip 1).nextLine 2) rest
          | letter :: rest =>
              if isBreak letter then
                doubleRest done ⟨[], some [], []⟩ ((position.skip 1).nextLine 1) rest
              else
                match escape letter rest with
                | .error fault => .error fault
                | .ok (meant, count) =>
                    doubleRest (meant :: done) .none (position.skip (2 + count))
                      (rest.drop count)
        else doubleRest (c :: done) .none (position.skip 1) rest
termination_by text.length
decreasing_by all_goals simp only [List.length_cons, List.length_drop]; omega

/-- Reads on in a scalar in single quotes of which some characters were read. -/
def singleRest (done : List Char) (gap : Gap) (position : Position) :
    List Char → Except Fault (Scanned (List Char))
  | [] => .error .unclosedQuote
  | '\r' :: '\n' :: rest => singleRest done (gap.addBreak '\n') (position.nextLine 2) rest
  | '\'' :: '\'' :: rest =>
      singleRest ('\'' :: gap.after done) .none (position.skip 2) rest
  | c :: rest =>
      if isBlank c then singleRest done (gap.addBlank c) (position.skip 1) rest
      else if isBreak c then singleRest done (gap.addBreak c) (position.nextLine 1) rest
      else if position.column = 0 && atDocumentMark (c :: rest) then .error .documentInQuotes
      else if c = '\'' then .ok ⟨(gap.after done).reverse, position.skip 1, rest⟩
      else singleRest (c :: gap.after done) .none (position.skip 1) rest

/-! ## Block scalars -/

/-- What becomes of the line breaks at the end of a block scalar. -/
inductive Chomping where
  /-- None is kept. -/
  | strip
  /-- The first is kept. -/
  | clip
  /-- All are kept. -/
  | keep
  deriving DecidableEq, Repr

/-- What a block scalar's header says. -/
structure Header where
  chomping : Chomping
  /-- How much further than their surroundings the lines are indented; zero when the first of them
  says it. -/
  indent : Nat
  deriving DecidableEq, Repr

/-- The chomping that an indicator asks for. -/
def chomping? : Char → Option Chomping
  | '+' => some .keep
  | '-' => some .strip
  | _ => none

/-- The value of a digit that may indicate an indentation. -/
def indentDigit? (c : Char) : Option Nat :=
  if c.isDigit then some (c.toNat - '0'.toNat) else none

/-- The indicators at the front of a text, in either order, and how many there are. -/
def indicators (text : List Char) : Header × Nat :=
  match text with
  | [] => (⟨.clip, 0⟩, 0)
  | c :: rest =>
      let next := rest.headD '\n'
      match chomping? c, indentDigit? c with
      | some chomping, _ =>
          match indentDigit? next with
          | some indent => (⟨chomping, indent⟩, 2)
          | none => (⟨chomping, 0⟩, 1)
      | none, some indent =>
          match chomping? next with
          | some chomping => (⟨chomping, indent⟩, 2)
          | none => (⟨.clip, indent⟩, 1)
      | none, none => (⟨.clip, 0⟩, 0)

/-- A line of a text: what it holds and the break that ends it, which the last line may lack. -/
structure Line where
  content : List Char
  ending : List Char

/-- The lines of a text; none when it is empty. -/
def lines : List Char → List Line
  | [] => []
  | '\r' :: '\n' :: rest => ⟨[], ['\r', '\n']⟩ :: lines rest
  | c :: rest =>
      if isBreak c then ⟨[], [c]⟩ :: lines rest
      else
        match lines rest with
        | [] => [⟨[c], []⟩]
        | line :: others => ⟨c :: line.content, line.ending⟩ :: others

namespace Line

/-- The line as it was written. -/
def written (line : Line) : List Char := line.content ++ line.ending

/-- What the end of the line means. -/
def breakText (line : Line) : List Char :=
  match line.ending.getLast? with
  | some c => Yaml.breakText c
  | none => []

/-- The place after the line. -/
def finish (position : Position) (line : Line) : Position :=
  let position := position.skip line.content.length
  if line.ending.isEmpty then position else position.nextLine line.ending.length

/-- The number of spaces that the line starts with. -/
def spaces (line : Line) : Nat := (line.content.takeWhile (· == ' ')).length

/-- Whether the line holds nothing but spaces and does end. -/
def isEmpty (line : Line) : Bool :=
  line.spaces == line.content.length && !line.ending.isEmpty

end Line

/-- The indentation of a block scalar whose header does not say it: that of its first line that
holds something, but no less than the empty lines before it have and than its surroundings
require. -/
def detectIndent (least : Nat) : List Line → Except Fault Nat
  | [] => .ok least
  | line :: others =>
      if line.isEmpty then detectIndent (max least line.spaces) others
      else if (line.content.drop line.spaces).head? = some '\t' then .error .tabIndent
      else .ok (max least line.spaces)

/-- The lines of a block scalar, without what indents them, and the lines after it. -/
def blockLines (indent : Nat) : List Line → Except Fault (List Line × List Line)
  | [] => .ok ([], [])
  | line :: others =>
      if line.isEmpty && line.spaces ≤ indent then do
        let (block, rest) ← blockLines indent others
        .ok (⟨[], line.ending⟩ :: block, rest)
      else if line.spaces < indent then
        if (line.content.drop line.spaces).head? = some '\t' then .error .tabIndent
        else .ok ([], line :: others)
      else if line.content.length = indent then .ok ([], line :: others)
      else do
        let (block, rest) ← blockLines indent others
        .ok (⟨line.content.drop indent, line.ending⟩ :: block, rest)

/-- What was read of a block scalar. -/
structure Block where
  /-- The text, last character first. -/
  text : List Char
  /-- The break that ends the last line that holds something; none before such a line. -/
  firstBreak : List Char
  /-- The breaks of the empty lines after it. -/
  breaks : List Char
  /-- Whether that line starts with a blank. -/
  startsBlank : Bool

/-- The block with another line. -/
def Block.add (literal : Bool) (block : Block) (line : Line) : Block :=
  match line.content with
  | [] => { block with breaks := block.breaks ++ line.breakText }
  | c :: _ =>
      let folds :=
        !literal && block.firstBreak == ['\n'] && !block.startsBlank && !isBlank c
      let joint :=
        if !folds then block.firstBreak ++ block.breaks
        else if block.breaks.isEmpty then [' ']
        else block.breaks
      ⟨line.content.reverse ++ joint.reverse ++ block.text, line.breakText, [], isBlank c⟩

/-- The text of a block scalar's lines. -/
def blockText (literal : Bool) (chomping : Chomping) (lines : List Line) : List Char :=
  let block := lines.foldl (Block.add literal) ⟨[], [], [], false⟩
  match chomping with
  | .strip => block.text.reverse
  | .clip => block.text.reverse ++ block.firstBreak
  | .keep => block.text.reverse ++ block.firstBreak ++ block.breaks

/-- Whether only a comment may be left of a line. -/
def isComment (content : List Char) : Bool :=
  match content.dropWhile isBlank with
  | [] => true
  | c :: _ => c == '#'

/-- Reads a block scalar after its indicator, in surroundings that require an indentation. -/
def blockScalar (literal : Bool) (least : Nat) (position : Position) (text : List Char) :
    Except Fault (Scanned (List Char)) := do
  let (header, count) := indicators text
  if count ≠ 0 && header.indent = 0 && (text.take count).contains '0' then
    .error .malformedHeader
  else
    match lines (text.drop count) with
    | [] => .ok ⟨[], position.skip count, []⟩
    | first :: others =>
        if !isComment first.content then .error .malformedHeader
        else do
          let start := Line.finish (position.skip count) first
          let indent ← if header.indent ≠ 0 then .ok (least - 1 + header.indent)
            else detectIndent (max least 1) others
          let (block, rest) ← blockLines indent others
          let taken := others.take (others.length - rest.length)
          .ok ⟨blockText literal header.chomping block, taken.foldl Line.finish start,
            rest.flatMap Line.written⟩

end ClusterEvidence.Yaml
