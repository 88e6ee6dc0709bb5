import ClusterEvidence.Http.Domain.Image
import ClusterEvidence.Http.Domain.Punycode
import ClusterEvidence.Text.Direction
import ClusterEvidence.Text.Joining

/-!
# Labels of domain names

A domain name consists of labels between full stops. A label in ASCII may be marked as one that
writes characters beyond it; then these are its characters, and they have to be such as stand for
themselves. What a label may hold is a matter of its characters: it does not begin with a mark,
joiners stand only where they change how letters are joined, and text from right to left is not
mixed with other text in a way that would show labels in another order.
-/

namespace ClusterEvidence.Http.Domain

open Text (Direction direction)

/-! ## Labels in ASCII -/

/-- The mark of a label that writes characters beyond ASCII. -/
def writtenMark : List Char := ['x', 'n', '-', '-']

/-- How many characters of a label after its mark are read at most. -/
def maxWritten : Nat := 2000

/-- How many characters a label that is to be written in ASCII may have. -/
def maxToWrite : Nat := 1000

/-- Whether the characters of a label stand for themselves. -/
def isOwnImage (label : List Char) : Bool := textImage? label == some label

/-- The characters that a label writes after its mark. -/
def readWritten? (written : List Char) : Option (List Char) :=
  if maxWritten < written.length || written.isEmpty || written.getLast? == some '-' then none
  else (Punycode.decode? written).filter isOwnImage

/-- The characters of a label. -/
def labelText? (label : List Char) : Option (List Char) :=
  if label.take 4 = writtenMark then readWritten? (label.drop 4) else some label

/-- A label in ASCII, given its characters. -/
def labelAscii (label : List Char) : List Char :=
  if label.all Punycode.isAscii then label else writtenMark ++ Punycode.encode label

/-! ## Joiners -/

/-- The class of signs that take the vowel from a letter. -/
def vowelKillerClass : Nat := 9

/-- Whether letters are joined across a place in a text, of which the part before the place is given
from its end. -/
def isJoined (before after : List Char) : Bool :=
  (before.dropWhile Text.isTransparent).head?.any Text.joinsNext &&
    (after.dropWhile Text.isTransparent).head?.any Text.joinsPrevious

/-- Whether a joiner, or what keeps letters apart, has an effect between two texts: after a sign
that takes the vowel, and for what keeps letters apart also between joined ones. -/
def hasEffect (joiner : Char) (before after : List Char) : Bool :=
  before.head?.any (Text.combiningClass · == vowelKillerClass) ||
    (joiner = '\u200c' && isJoined before after)

/-- Whether all joiners of a text have an effect, after a text that is given from its end. -/
def joinersHaveEffect (before : List Char) : List Char → Bool
  | [] => true
  | c :: text =>
      (c != '\u200c' && c != '\u200d' || hasEffect c before text) &&
        joinersHaveEffect (c :: before) text

/-! ## Direction -/

/-- Whether a character makes a name one that text from right to left is part of. -/
def isFromRight (c : Char) : Bool :=
  [Direction.rightToLeft, .arabicLetter, .arabicNumber].contains (direction c)

/-- What may stand in a label of either direction besides its letters. -/
def sharedDirections : List Direction :=
  [.europeanNumber, .europeanSeparator, .commonSeparator, .europeanTerminator, .neutral, .boundary,
    .nonspacing]

/-- Whether directions may make up a label, when text from right to left is part of its name. It
begins with a letter and holds text of that letter's direction only, and it ends with a letter or a
number; numbers of two kinds do not stand together. -/
def isOrdered (directions : List Direction) : Bool :=
  let last := (directions.reverse.dropWhile (· == .nonspacing)).head?
  match directions.head? with
  | none => true
  | some .leftToRight =>
      directions.all (fun d => d == .leftToRight || sharedDirections.contains d) &&
        last.any [Direction.leftToRight, .europeanNumber].contains
  | some .rightToLeft | some .arabicLetter =>
      let letters : List Direction := [.rightToLeft, .arabicLetter, .arabicNumber]
      directions.all (fun d => letters.contains d || sharedDirections.contains d) &&
        last.any (Direction.europeanNumber :: letters).contains &&
        !(directions.contains .europeanNumber && directions.contains .arabicNumber)
  | some _ => false

/-! ## Names -/

/-- Whether a label may be part of a name, whatever the others are. -/
def isLabel (label : List Char) : Bool :=
  !label.head?.any Text.isMark && joinersHaveEffect [] label &&
    (label.all Punycode.isAscii || label.length ≤ maxToWrite)

/-- A domain name in ASCII, unless it may not be one. -/
def toAscii? (name : List Char) : Option (List Char) := do
  let image ← textImage? name
  let labels ← (Text.splitOn '.' image).mapM labelText?
  let isOrderedName := !labels.any (·.any isFromRight) ||
    labels.all fun label => isOrdered (label.map direction)
  if labels.all isLabel && isOrderedName then
    some (List.intercalate ['.'] (labels.map labelAscii))
  else none

end ClusterEvidence.Http.Domain
