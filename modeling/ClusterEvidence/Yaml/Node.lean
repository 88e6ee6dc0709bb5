import ClusterEvidence.Yaml.Token

/-!
# Nodes of a YAML text

A text holds one document, and a document is one node. Where a node may be left out, an empty scalar
stands for it.

An anchor has a number: how many names of anchors there were before it. So a name that is used again
takes a new number, which the next new name takes too. An alias stands for the last node of the
document that has the number of its name, and is followed only when the whole document was read.

Every part of a node takes a token, and at most two steps are taken without one, so that the number
of tokens bounds how far the reader has to go (`Reader.enough`).
-/

namespace ClusterEvidence.Yaml

/-- A node of a document. -/
inductive Node where
  | scalar (style : Style) (tag : Option String) (text : String)
  | sequence (items : List Node)
  | mapping (entries : List (Node × Node))
  /-- An alias, which stands for the last node whose anchor has a number. -/
  | alias (number : Nat)
  deriving Repr

namespace Node

/-- The node that stands where none is written. -/
def absent : Node := .scalar .plain none ""

end Node

/-! ## The reader -/

/-- What is left of a text, and what was defined in it so far. -/
structure ReaderState where
  tokens : List Token
  /-- What the handles of tags stand for. -/
  handles : List (String × String)
  /-- The numbers of anchors, for each name the last one. -/
  names : List (String × Nat)
  /-- The nodes that have an anchor, the latest first; one that is not complete yet is held as an
  empty one. -/
  anchored : List (Nat × Node)

/-- Reads a part of a document. -/
abbrev Reader (α : Type) := StateT ReaderState (Except Fault) α

namespace Reader

/-- The next token. -/
def peek : Reader (Option Token) := do return (← get).tokens.head?

/-- Leaves the next token behind. -/
def advance : Reader Unit := modify fun state => { state with tokens := state.tokens.drop 1 }

/-- The next token if it is one of those that may stand here; it is left behind. -/
def accept (token : Token) : Reader Bool := do
  if (← peek) = some token then
    advance
    return true
  else return false

/-- Whether an entry of a flow collection may follow; only the first needs no comma before it. -/
def separated (first : Bool) : Reader Bool := if first then pure true else accept .flowEntry

/-- Whether the next token is one of some. -/
def isNext (tokens : List Token) : Reader Bool := do
  return (← peek).any tokens.contains

/-! ## Anchors and tags -/

/-- What a tag's handle and suffix stand for together. -/
def resolveTag (handle suffix : String) : Reader String := do
  if handle = "" then return suffix
  else
    match (← get).handles.lookup handle with
    | some start => return start ++ suffix
    | none => throw .undefinedTag

/-- The tag in front of a node. -/
def tagProperty : Reader (Option String) := do
  match ← peek with
  | some (.tag handle suffix) =>
      advance
      return some (← resolveTag handle suffix)
  | _ => return none

/-- The anchor in front of a node. -/
def anchorProperty : Reader (Option String) := do
  match ← peek with
  | some (.anchor name) =>
      advance
      return some name
  | _ => return none

/-- The anchor and the tag in front of a node, in either order. -/
def properties : Reader (Option String × Option String) := do
  match ← anchorProperty with
  | some name => return (some name, ← tagProperty)
  | none =>
      let tag ← tagProperty
      if tag.isSome then return (← anchorProperty, tag) else return (none, none)

/-- Defines an anchor whose node follows, and tells how many nodes had one before. -/
def openAnchor (name : Option String) : Reader Nat := do
  let state ← get
  if let some name := name then
    let number := state.names.length
    set { state with
      names := (name, number) :: state.names.filter (·.1 != name)
      anchored := (number, .absent) :: state.anchored }
  return state.anchored.length

/-- Completes the node whose anchor stands after so many others. -/
def closeAnchor (name : Option String) (count : Nat) (node : Node) : Reader Unit :=
  if name.isSome then
    modify fun state =>
      { state with
        anchored := state.anchored.modify (state.anchored.length - count - 1) fun (number, _) =>
          (number, node) }
  else pure ()

/-- The alias of a name. -/
def aliased (name : String) : Reader Node := do
  match (← get).names.lookup name with
  | some number => return .alias number
  | none => throw .undefinedAlias

/-! ## Nodes -/

/-- What may be read of a node. -/
structure Context where
  /-- Whether the node may be a block. -/
  block : Bool
  /-- Whether the node may be a list at the column of the block around it. -/
  unindented : Bool

/-- The context of a document and of an entry of a block list. -/
def inBlock : Context := ⟨true, false⟩

/-- The context of a key or a value in a block. -/
def inMapping : Context := ⟨true, true⟩

/-- The context of everything in a flow collection. -/
def inFlow : Context := ⟨false, false⟩

/-- What may follow an item, so that the item is left out. -/
def afterUnindented : List Token := [.blockEntry, .key, .value, .blockEnd]

mutual

/-- A node. -/
def node (context : Context) : Nat → Reader Node
  | 0 => throw .missingNode
  | fuel + 1 => do
      match ← peek with
      | some (.alias name) =>
          advance
          aliased name
      | _ =>
          let (anchor, tag) ← properties
          let count ← openAnchor anchor
          let node ← content context (anchor.isSome || tag.isSome) tag fuel
          closeAnchor anchor count node
          return node

/-- What follows the anchor and the tag of a node. -/
def content (context : Context) (hasProperties : Bool) (tag : Option String) :
    Nat → Reader Node
  | 0 => throw .missingNode
  | fuel + 1 => do
      match ← peek, context with
      | some .blockEntry, ⟨_, true⟩ => return .sequence (← unindentedItems fuel)
      | some (.scalar style text), _ =>
          advance
          return .scalar style (tag.filter (· != "!")) text
      | some .flowSequenceStart, _ =>
          advance
          return .sequence (← flowItems true fuel)
      | some .flowMappingStart, _ =>
          advance
          return .mapping (← flowEntries true fuel)
      | some .blockSequenceStart, ⟨true, _⟩ =>
          advance
          return .sequence (← blockItems fuel)
      | some .blockMappingStart, ⟨true, _⟩ =>
          advance
          return .mapping (← blockEntries fuel)
      | _, _ => if hasProperties then return .scalar .plain tag "" else throw .missingNode

/-- A node, unless one of some tokens follows, so that it is left out. -/
def nodeUnless (tokens : List Token) (context : Context) : Nat → Reader Node
  | 0 => throw .missingNode
  | fuel + 1 => do if ← isNext tokens then return .absent else node context fuel

/-- The items of a block list, up to its end. -/
def blockItems : Nat → Reader (List Node)
  | 0 => throw .missingEntry
  | fuel + 1 => do
      if ← accept .blockEntry then
        let item ← nodeUnless [.blockEntry, .blockEnd] inBlock fuel
        return item :: (← blockItems fuel)
      else if ← accept .blockEnd then return []
      else throw .missingEntry

/-- The items of a block list that is not indented. -/
def unindentedItems : Nat → Reader (List Node)
  | 0 => throw .missingEntry
  | fuel + 1 => do
      if ← accept .blockEntry then
        let item ← nodeUnless afterUnindented inBlock fuel
        return item :: (← unindentedItems fuel)
      else return []

/-- The entries of a block mapping, up to its end. -/
def blockEntries : Nat → Reader (List (Node × Node))
  | 0 => throw .missingEntry
  | fuel + 1 => do
      if ← accept .key then
        let key ← nodeUnless [.key, .value, .blockEnd] inMapping fuel
        let value ←
          if ← accept .value then nodeUnless [.key, .value, .blockEnd] inMapping fuel
          else pure .absent
        return (key, value) :: (← blockEntries fuel)
      else if ← accept .blockEnd then return []
      else throw .missingEntry

/-- The items of a flow list, up to its end; the first is not preceded by a comma. A key among them
is a mapping of one entry. -/
def flowItems (first : Bool) : Nat → Reader (List Node)
  | 0 => throw .missingEntry
  | fuel + 1 => do
      if ← accept .flowSequenceEnd then return []
      else if !(← separated first) then throw .missingEntry
      else if ← accept .flowSequenceEnd then return []
      else
        let item ← if ← accept .key then flowPair fuel else node inFlow fuel
        return item :: (← flowItems false fuel)

/-- A mapping of one entry in a flow list. -/
def flowPair : Nat → Reader Node
  | 0 => throw .missingEntry
  | fuel + 1 => do
      let key ←
        if ← isNext [.value, .flowEntry, .flowSequenceEnd] then
          advance
          pure .absent
        else node inFlow fuel
      let value ←
        if ← accept .value then nodeUnless [.flowEntry, .flowSequenceEnd] inFlow fuel
        else pure .absent
      return .mapping [(key, value)]

/-- The entries of a flow mapping, up to its end; the first is not preceded by a comma. An item
without a mark is a key without a value. -/
def flowEntries (first : Bool) : Nat → Reader (List (Node × Node))
  | 0 => throw .missingEntry
  | fuel + 1 => do
      if ← accept .flowMappingEnd then return []
      else if !(← separated first) then throw .missingEntry
      else if ← accept .flowMappingEnd then return []
      else
        let entry ←
          if ← accept .key then do
            let key ← nodeUnless [.value, .flowEntry, .flowMappingEnd] inFlow fuel
            let value ←
              if ← accept .value then nodeUnless [.flowEntry, .flowMappingEnd] inFlow fuel
              else pure .absent
            pure (key, value)
          else do
            let key ← node inFlow fuel
            pure (key, .absent)
        return entry :: (← flowEntries false fuel)

end

/-- A bound of how far a node can take the reader. -/
def enough : Reader Nat := do return 4 * (← get).tokens.length + 4

/-! ## Documents -/

/-- What the handles of tags stand for unless a directive says otherwise. -/
def standardHandles : List (String × String) := [("!", "!"), ("!!", "tag:yaml.org,2002:")]

/-- Reads directives in front of a document, each kind or handle of which may stand once. -/
def directives (versionSeen : Bool) (handles : List (String × String)) :
    List Token → Except Fault (List (String × String) × List Token)
  | .versionDirective major minor :: rest =>
      if versionSeen then .error .repeatedDirective
      else if major ≠ 1 || (minor ≠ 1 && minor ≠ 2) then .error .incompatibleVersion
      else directives true handles rest
  | .tagDirective handle start :: rest =>
      if (handles.lookup handle).isSome then .error .repeatedDirective
      else directives versionSeen (handles ++ [(handle, start)]) rest
  | rest => .ok (handles, rest)

/-- Whether a token starts a document that has its start marked. -/
def startsMarked : Token → Bool
  | .versionDirective .. | .tagDirective .. | .documentStart => true
  | _ => false

/-- Whether a token ends a document. -/
def endsDocument (token : Token) : Bool := startsMarked token || token == .documentEnd

/-- The node of a document whose start is marked. -/
def markedDocument : Reader Node := do
  let (handles, rest) ← directives false [] (← get).tokens
  set (⟨rest, handles ++ standardHandles, [], []⟩ : ReaderState)
  if ← accept .documentStart then
    if (← peek).all endsDocument then return .absent else node inBlock (← enough)
  else throw .missingDocumentStart

/-- The only document of a text; a text without one stands for an empty scalar. -/
def document : Reader Node := do
  let node ← match ← peek with
    | none => pure Node.absent
    | some token =>
        if startsMarked token then markedDocument
        else node inBlock (← enough)
  let rest := (← get).tokens.dropWhile (· == .documentEnd)
  if rest.isEmpty then return node else throw .severalDocuments

end Reader

/-- What was read of a text: its node, and the nodes that have an anchor, the latest first. -/
structure Document where
  root : Node
  anchored : List (Nat × Node)

namespace Document

/-- Reads a text. -/
def read (text : List Char) : Except Fault Document := do
  let tokens ← Token.scan text
  let (root, state) ← Reader.document.run ⟨tokens, Reader.standardHandles, [], []⟩
  .ok ⟨root, state.anchored⟩

end Document

end ClusterEvidence.Yaml
