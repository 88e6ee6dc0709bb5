import ClusterEvidence.Text.Bytes
import ClusterEvidence.Text.Digits
import ClusterEvidence.Yaml.Scalar

/-!
# Tokens of a YAML text

Blocks have no brackets: their start and end are read off the columns that lines start in, and a key
is known to be one only when its colon follows. So a token that may start a key is kept in mind
(`Candidate`), one for each flow collection that is open. When the colon comes, on the same line and
not too far away, the token that announces the key is put in front of it, and before that the start
of its block if the key is further right than the block around it.
-/

namespace ClusterEvidence.Yaml

/-! ## Tokens -/

/-- How a scalar is written. -/
inductive Style where
  | plain
  | quoted
  | literal
  | folded
  deriving DecidableEq, Repr

/-- The token kinds of a text. -/
inductive Token where
  | versionDirective (major minor : Nat)
  | tagDirective (handle start : String)
  | documentStart
  | documentEnd
  | blockSequenceStart
  | blockMappingStart
  | blockEnd
  | flowSequenceStart
  | flowSequenceEnd
  | flowMappingStart
  | flowMappingEnd
  | blockEntry
  | flowEntry
  | key
  | value
  | anchor (name : String)
  | alias (name : String)
  | tag (handle suffix : String)
  | scalar (style : Style) (text : String)
  deriving DecidableEq, Repr

/-- A token that a key may start with. -/
structure Candidate where
  /-- The number of tokens before it. -/
  count : Nat
  position : Position
  /-- Whether it cannot be anything else. -/
  required : Bool

/-- How far a key may reach. -/
def keyLimit : Nat := 1024

/-- What was scanned of a text. -/
structure Scanner where
  position : Position
  rest : List Char
  /-- The tokens, the latest first. -/
  done : List Token
  /-- Whether a key may start here. -/
  keyAllowed : Bool
  /-- What may be a key in the innermost collection. -/
  candidate : Option Candidate
  /-- The same for the collections around it, one for each flow collection that is open. -/
  outer : List (Option Candidate)
  /-- The columns of the open blocks, the innermost first. -/
  columns : List Nat

namespace Scanner

/-- The scanner at the start of a text. -/
def start (text : List Char) : Scanner := ⟨.start, text, [], true, none, [], []⟩

/-- Whether a flow collection is open. -/
def inFlow (scanner : Scanner) : Bool := !scanner.outer.isEmpty

/-- The least column of what belongs to the innermost block. -/
def least (scanner : Scanner) : Nat :=
  match scanner.columns with
  | [] => 0
  | column :: _ => column + 1

/-- The scanner after another token. -/
def push (scanner : Scanner) (token : Token) : Scanner :=
  { scanner with done := token :: scanner.done }

/-- The scanner after characters of the same line. -/
def skip (scanner : Scanner) (count : Nat) : Scanner :=
  { scanner with position := scanner.position.skip count, rest := scanner.rest.drop count }

/-- The scanner with a token put in after so many others. -/
def insert (scanner : Scanner) (count : Nat) (token : Token) : Scanner :=
  { scanner with done := scanner.done.insertIdx (scanner.done.length - count) token }

/-! ## Keys and blocks -/

/-- Forgets candidates that are out of reach; one that had to be a key is an error. -/
def checkCandidate (position : Position) : Option Candidate → Except Fault (Option Candidate)
  | none => .ok none
  | some candidate =>
      if candidate.position.line < position.line ||
          candidate.position.index + keyLimit < position.index then
        if candidate.required then .error .keyWithoutColon else .ok none
      else .ok (some candidate)

/-- Forgets all candidates that are out of reach. -/
def checkCandidates (scanner : Scanner) : Except Fault Scanner := do
  let candidate ← checkCandidate scanner.position scanner.candidate
  let outer ← scanner.outer.mapM (checkCandidate scanner.position)
  .ok { scanner with candidate, outer }

/-- Forgets the innermost candidate, which must not have to be a key. -/
def dropCandidate (scanner : Scanner) : Except Fault Scanner :=
  match scanner.candidate with
  | some ⟨_, _, true⟩ => .error .keyWithoutColon
  | _ => .ok { scanner with candidate := none }

/-- Keeps in mind that the next token may start a key. -/
def noteCandidate (scanner : Scanner) : Except Fault Scanner :=
  if scanner.keyAllowed then do
    let required := !scanner.inFlow && scanner.columns.head? == some scanner.position.column
    let scanner ← scanner.dropCandidate
    .ok { scanner with
      candidate := some ⟨scanner.done.length, scanner.position, required⟩ }
  else .ok scanner

/-- Opens a block at a column further right than the innermost one, in front of the token that has
so many others before it. -/
def openBlock (scanner : Scanner) (column count : Nat) (token : Token) : Scanner :=
  if scanner.inFlow || column < scanner.least then scanner
  else { scanner.insert count token with columns := column :: scanner.columns }

/-- Ends blocks while they are further right than a column. -/
def endBlocks (column : Nat) : List Nat → List Token → List Nat × List Token
  | [], done => ([], done)
  | open_ :: columns, done =>
      if column < open_ then endBlocks column columns (.blockEnd :: done)
      else (open_ :: columns, done)

/-- Ends the blocks that are further right than the present column. -/
def closeBlocks (scanner : Scanner) : Scanner :=
  if scanner.inFlow then scanner
  else
    let (columns, done) := endBlocks scanner.position.column scanner.columns scanner.done
    { scanner with columns, done }

/-- Ends all blocks, at the end of a document. -/
def closeAll (scanner : Scanner) : Scanner :=
  if scanner.inFlow then scanner
  else { scanner with
    columns := []
    done := scanner.columns.map (fun _ => .blockEnd) ++ scanner.done }

/-! ## Between tokens -/

/-- Skips a line break, after which a key may start. -/
def breakLine (scanner : Scanner) (count : Nat) (rest : List Char) : Scanner :=
  { scanner with
    position := scanner.position.nextLine count
    rest
    keyAllowed := scanner.keyAllowed || !scanner.inFlow }

/-- Skips blanks, comments and line breaks. Tabs may not stand where a key may start in a block. A
byte order mark may start a line. -/
def skipGap (scanner : Scanner) (inComment : Bool) : List Char → Scanner
  | [] => { scanner with rest := [] }
  | '\r' :: '\n' :: rest => skipGap (scanner.breakLine 2 rest) false rest
  | c :: rest =>
      if isBreak c then skipGap (scanner.breakLine 1 rest) false rest
      else if inComment || c = '#' then
        skipGap { scanner with position := scanner.position.skip 1 } true rest
      else if c = ' ' || (c = '\t' && (scanner.inFlow || !scanner.keyAllowed)) ||
          (c = '\ufeff' && scanner.position.column = 0) then
        skipGap { scanner with position := scanner.position.skip 1 } false rest
      else { scanner with rest := c :: rest }

/-! ## Tokens of one character -/

/-- Starts a flow collection. -/
def flowStart (token : Token) (scanner : Scanner) : Except Fault Scanner := do
  let scanner ← scanner.noteCandidate
  .ok ({ scanner with
    candidate := none
    outer := scanner.candidate :: scanner.outer
    keyAllowed := true }.push token |>.skip 1)

/-- Ends a flow collection, or what would be one. -/
def flowEnd (token : Token) (scanner : Scanner) : Except Fault Scanner := do
  let scanner ← scanner.dropCandidate
  let scanner := match scanner.outer with
    | [] => scanner
    | candidate :: outer => { scanner with candidate, outer }
  .ok ({ scanner with keyAllowed := false }.push token |>.skip 1)

/-- Separates two entries of a flow collection. -/
def flowNext (scanner : Scanner) : Except Fault Scanner := do
  let scanner ← scanner.dropCandidate
  .ok ({ scanner with keyAllowed := true }.push .flowEntry |>.skip 1)

/-- Starts an entry of a block list, and the list if need be. -/
def entry (scanner : Scanner) : Except Fault Scanner := do
  if !scanner.inFlow && !scanner.keyAllowed then .error .misplacedIndicator
  else
    let scanner := scanner.openBlock scanner.position.column scanner.done.length .blockSequenceStart
    let scanner ← scanner.dropCandidate
    .ok ({ scanner with keyAllowed := true }.push .blockEntry |>.skip 1)

/-- Starts a key that is marked as one. -/
def explicitKey (scanner : Scanner) : Except Fault Scanner := do
  if !scanner.inFlow && !scanner.keyAllowed then .error .misplacedIndicator
  else
    let scanner := scanner.openBlock scanner.position.column scanner.done.length .blockMappingStart
    let scanner ← scanner.dropCandidate
    .ok ({ scanner with keyAllowed := !scanner.inFlow }.push .key |>.skip 1)

/-- Starts a value. What may be a key now is one. -/
def value (scanner : Scanner) : Except Fault Scanner :=
  match scanner.candidate with
  | some ⟨count, position, _⟩ =>
      let scanner := (scanner.insert count .key).openBlock position.column count .blockMappingStart
      .ok ({ scanner with candidate := none, keyAllowed := false }.push .value |>.skip 1)
  | none =>
      if !scanner.inFlow && !scanner.keyAllowed then .error .misplacedIndicator
      else
        let scanner :=
          scanner.openBlock scanner.position.column scanner.done.length .blockMappingStart
        .ok ({ scanner with keyAllowed := !scanner.inFlow }.push .value |>.skip 1)

/-- Marks the start or the end of a document. -/
def documentMark (token : Token) (scanner : Scanner) : Except Fault Scanner := do
  let scanner ← scanner.closeAll.dropCandidate
  .ok ({ scanner with keyAllowed := false }.push token |>.skip 3)

/-! ## Anchors and tags -/

/-- Whether a text goes on as it may after the name of an anchor. -/
def endsAnchor : List Char → Bool
  | c :: rest => atGap (c :: rest) || "?:,]\x7d%@".toList.contains c || c == '\x60'
  | [] => true

/-- The name of an anchor or alias after its indicator. -/
def anchorName (make : String → Token) (scanner : Scanner) : Except Fault Scanner := do
  let scanner ← scanner.noteCandidate
  let text := scanner.rest.drop 1
  let name := text.takeWhile isNameChar
  if name.isEmpty || !endsAnchor (text.dropWhile isNameChar) then .error .malformedAnchor
  else
    .ok ({ scanner with keyAllowed := false }.push (make (String.ofList name))
      |>.skip (name.length + 1))

/-- A character of tags. Those between angle brackets may hold indicators of flow collections. -/
def isTagChar (bracketed : Bool) (c : Char) : Bool :=
  isNameChar c || ";/?:@&=+$.!~*'()".toList.contains c || (bracketed && ",[]".toList.contains c)

/-- The byte that a percent sign and two digits in front of a text stand for. -/
def percentByte? : List Char → Option UInt8
  | '%' :: high :: low :: _ => do
      let high ← hexDigit? high
      let low ← hexDigit? low
      some (UInt8.ofNat (high * 16 + low))
  | _ => none

/-- How many bytes follow the first byte of a character; nothing for a byte that starts none. -/
def bytesAfter? (first : UInt8) : Option Nat :=
  if first < 0x80 then some 0
  else if first / 0x20 = 6 then some 1
  else if first / 0x10 = 14 then some 2
  else if first / 0x08 = 30 then some 3
  else none

/-- The bytes of the character that percent signs stand for in front of a text. Only their kind is
looked at: the first one says how many continue it. -/
def percentBytes? (text : List Char) : Option Bytes := do
  let first ← percentByte? text
  let count ← bytesAfter? first
  let others ← (List.range count).mapM fun n =>
    (percentByte? (text.drop (3 * (n + 1)))).filter Text.isContinuation
  some (first :: others)

/-- The characters of tags in front of a text, and how many characters they take. Bytes that are no
character are replaced. -/
def tagChars (bracketed : Bool) (text : List Char) : Except Fault (List Char × Nat) :=
  match text with
  | [] => .ok ([], 0)
  | '%' :: rest =>
      match percentBytes? ('%' :: rest) with
      | none => .error .malformedTag
      | some bytes => do
          let count := 3 * bytes.length
          let (others, more) ← tagChars bracketed (rest.drop (count - 1))
          .ok (Text.decodeLossy bytes ++ others, count + more)
  | c :: rest =>
      if isTagChar bracketed c then do
        let (others, more) ← tagChars bracketed rest
        .ok (c :: others, more + 1)
      else .ok ([], 0)
termination_by text.length
decreasing_by all_goals simp only [List.length_cons, List.length_drop]; omega

/-- The part of a tag in front of a text, and how many characters it takes. What follows a null
character is not part of it. -/
def tagPart (bracketed : Bool) (text : List Char) : Except Fault (List Char × Nat) :=
  (tagChars bracketed text).map fun (part, count) => (part.takeWhile (· != '\x00'), count)

/-- The handle in front of a text: an exclamation mark, a name, and another such mark if there is
one. -/
def tagHandle (text : List Char) : List Char :=
  let name := (text.drop 1).takeWhile isNameChar
  let rest := (text.drop 1).dropWhile isNameChar
  '!' :: name ++ rest.takeWhile (· == '!') |>.take (name.length + 2)

/-- Whether a handle ends in an exclamation mark of its own. -/
def isNamedHandle (handle : List Char) : Bool := 1 < handle.length && handle.getLast? == some '!'

/-- The handle and the suffix of the tag in front of a text, and how many characters it takes. -/
def tagText (text : List Char) : Except Fault (List Char × List Char × Nat) :=
  match text with
  | '!' :: '<' :: rest => do
      let (suffix, count) ← tagPart true rest
      if count = 0 || (rest.drop count).head? ≠ some '>' then .error .malformedTag
      else .ok ([], suffix, count + 3)
  | _ => do
      let handle := tagHandle text
      let (suffix, count) ← tagPart false (text.drop handle.length)
      if isNamedHandle handle then
        if count = 0 then .error .malformedTag
        else .ok (handle, suffix, handle.length + count)
      else
        let suffix := handle.drop 1 ++ suffix
        if suffix.isEmpty then .ok ([], ['!'], handle.length + count)
        else .ok (['!'], suffix, handle.length + count)

/-- A tag. -/
def tag (scanner : Scanner) : Except Fault Scanner := do
  let scanner ← scanner.noteCandidate
  let (handle, suffix, count) ← tagText scanner.rest
  let rest := scanner.rest.drop count
  if atGap rest || (scanner.inFlow && rest.head? == some ',') then
    .ok ({ scanner with keyAllowed := false }.push
      (.tag (String.ofList handle) (String.ofList suffix)) |>.skip count)
  else .error .malformedTag

/-! ## Directives -/

/-- The number in front of a text, of at most nine digits, and what follows it. -/
def versionNumber (text : List Char) : Except Fault (Nat × List Char) :=
  let digits := text.takeWhile Char.isDigit
  if digits.isEmpty || 9 < digits.length then .error .malformedDirective
  else .ok (Text.valueOfDigits digits, text.dropWhile Char.isDigit)

/-- The directive of a name and what follows it on its line. -/
def directiveToken (name text : List Char) : Except Fault (Token × List Char) := do
  let text := text.dropWhile isBlank
  if name = "YAML".toList then
    let (major, text) ← versionNumber text
    match text with
    | '.' :: text =>
        let (minor, text) ← versionNumber text
        .ok (.versionDirective major minor, text)
    | _ => .error .malformedDirective
  else if name = "TAG".toList then
    let handle := tagHandle text
    let rest := text.drop handle.length
    if text.head? ≠ some '!' || (handle.length ≠ 1 && !isNamedHandle handle) then
      .error .malformedDirective
    else if !(rest.head?.any isBlank) then .error .malformedDirective
    else
      let text := rest.dropWhile isBlank
      let (start, count) ← tagPart true text
      if count = 0 || !atGap (text.drop count) then .error .malformedDirective
      else
        .ok (.tagDirective (String.ofList handle) (String.ofList start), text.drop count)
  else .error .unknownDirective

/-- A directive, which takes up a line. -/
def directive (scanner : Scanner) : Except Fault Scanner := do
  let scanner ← scanner.closeAll.dropCandidate
  let line := scanner.rest.takeWhile (!isBreak ·)
  let text := line.drop 1
  let name := text.takeWhile isNameChar
  let text := text.dropWhile isNameChar
  if name.isEmpty || !atGap text then .error .malformedDirective
  else
    let (token, text) ← directiveToken name text
    if !isComment text then .error .malformedDirective
    else .ok ({ scanner with keyAllowed := false }.push token |>.skip line.length)

/-! ## Scalars -/

/-- The scanner after a scalar. -/
def scanned (scanner : Scanner) (style : Style) (result : Scanned (List Char)) : Scanner :=
  { scanner with position := result.position, rest := result.rest }.push
    (.scalar style (String.ofList result.value))

/-- A plain scalar. After one that ends in another line a key may start. -/
def plain (scanner : Scanner) : Except Fault Scanner := do
  let scanner ← scanner.noteCandidate
  let result ← plainScalar ⟨scanner.inFlow, scanner.least⟩ scanner.position scanner.rest
  let (text, crossed) := result.value
  .ok ({ scanner with keyAllowed := crossed }.scanned .plain { result with value := text })

/-- A quoted scalar. -/
def quoted (read : Position → List Char → Except Fault (Scanned (List Char)))
    (scanner : Scanner) : Except Fault Scanner := do
  let scanner ← scanner.noteCandidate
  let result ← read (scanner.position.skip 1) (scanner.rest.drop 1)
  .ok ({ scanner with keyAllowed := false }.scanned .quoted result)

/-- A block scalar. -/
def block (style : Style) (scanner : Scanner) : Except Fault Scanner := do
  let scanner ← scanner.dropCandidate
  let result ← blockScalar (style == .literal) scanner.least (scanner.position.skip 1)
    (scanner.rest.drop 1)
  .ok ({ scanner with keyAllowed := true }.scanned style result)

/-! ## Scanning -/

/-- Whether a character can only start something else than a plain scalar. -/
def isIndicator (c : Char) : Bool :=
  "-?:,[]\x7b\x7d#&*!|>'\"%@".toList.contains c || c == '\x60'

/-- Whether a plain scalar starts with a character and what follows it. -/
def startsPlain (inFlow : Bool) (c : Char) (rest : List Char) : Bool :=
  !(isBlank c || isBreak c || isIndicator c) || (c == '-' && !rest.head?.any isBlank) ||
    (!inFlow && (c == '?' || c == ':') && !atGap rest)

/-- The token that a character starts. -/
def token (c : Char) (rest : List Char) (scanner : Scanner) : Except Fault Scanner :=
  if scanner.position.column = 0 && c = '%' then scanner.directive
  else if scanner.position.column = 0 && atDocumentMark (c :: rest) then
    scanner.documentMark (if c = '-' then .documentStart else .documentEnd)
  else if c = '[' then scanner.flowStart .flowSequenceStart
  else if c = '\x7b' then scanner.flowStart .flowMappingStart
  else if c = ']' then scanner.flowEnd .flowSequenceEnd
  else if c = '\x7d' then scanner.flowEnd .flowMappingEnd
  else if c = ',' then scanner.flowNext
  else if c = '-' && atGap rest then scanner.entry
  else if c = '?' && (scanner.inFlow || atGap rest) then scanner.explicitKey
  else if c = ':' && (scanner.inFlow || atGap rest) then scanner.value
  else if c = '*' then scanner.anchorName .alias
  else if c = '&' then scanner.anchorName .anchor
  else if c = '!' then scanner.tag
  else if c = '|' && !scanner.inFlow then scanner.block .literal
  else if c = '>' && !scanner.inFlow then scanner.block .folded
  else if c = '\'' then scanner.quoted (singleRest [] .none)
  else if c = '"' then scanner.quoted (doubleRest [] .none)
  else if startsPlain scanner.inFlow c rest then scanner.plain
  else .error .strayCharacter

/-- Scans on while there is something left, a token at a time. Every token takes a character, so
that the text's length is enough fuel. -/
def tokens (scanner : Scanner) : Nat → Except Fault (List Token)
  | 0 => .error .strayCharacter
  | fuel + 1 => do
      let scanner ← (scanner.skipGap false scanner.rest).checkCandidates
      let scanner := scanner.closeBlocks
      match scanner.rest with
      | [] => do
          let scanner ← scanner.closeAll.dropCandidate
          .ok scanner.done.reverse
      | c :: rest => do
          let scanner ← scanner.token c rest
          scanner.tokens fuel

end Scanner

/-- The tokens of a text. -/
def Token.scan (text : List Char) : Except Fault (List Token) :=
  if text.all isAllowed then (Scanner.start text).tokens (text.length + 1)
  else .error .controlCharacter

end ClusterEvidence.Yaml
