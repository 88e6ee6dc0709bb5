/-!
# What can be wrong with a YAML text

The causes for which reading a YAML text fails: its characters, its tokens, its structure, or the
record that it is read as.
-/

namespace ClusterEvidence.Yaml

/-- Why a YAML text was refused. -/
inductive Fault where
  /-- The text holds a character that may not stand in it. -/
  | controlCharacter
  /-- No token starts with the next character. -/
  | strayCharacter
  | unknownDirective
  | malformedDirective
  | repeatedDirective
  /-- The text is written in another version than 1.1 or 1.2. -/
  | incompatibleVersion
  /-- The name of an anchor or alias is empty or goes on with a character that is not of names. -/
  | malformedAnchor
  | malformedTag
  /-- The header of a block scalar goes on after its indicators. -/
  | malformedHeader
  /-- A tab stands where spaces indent. -/
  | tabIndent
  | unclosedQuote
  /-- A document starts or ends within quotes. -/
  | documentInQuotes
  | unknownEscape
  | malformedEscape
  /-- A colon stands before an indicator within a flow collection. -/
  | unexpectedColon
  /-- What has to be a key is not followed by a colon. -/
  | keyWithoutColon
  /-- A list entry, a key or a value stands where a line has something else already. -/
  | misplacedIndicator
  /-- Nothing that a node consists of follows. -/
  | missingNode
  /-- The next entry or the end of a collection does not follow. -/
  | missingEntry
  | missingDocumentStart
  | undefinedTag
  | undefinedAlias
  | severalDocuments
  /-- A node of another kind was required. -/
  | expected (what : String)
  /-- A declared field is given twice. -/
  | duplicateField (name : String)
  deriving DecidableEq, Repr

/-- The wording of a fault. -/
def Fault.message : Fault → String
  | .controlCharacter => "control characters are not allowed"
  | .strayCharacter => "found character that cannot start any token"
  | .unknownDirective => "found unknown directive name"
  | .malformedDirective => "malformed directive"
  | .repeatedDirective => "found duplicate directive"
  | .incompatibleVersion => "found incompatible YAML document"
  | .malformedAnchor => "did not find expected alphabetic or numeric character"
  | .malformedTag => "malformed tag"
  | .malformedHeader => "did not find expected comment or line break"
  | .tabIndent => "found a tab character where an indentation space is expected"
  | .unclosedQuote => "found unexpected end of stream"
  | .documentInQuotes => "found unexpected document indicator"
  | .unknownEscape => "found unknown escape character"
  | .malformedEscape => "found invalid Unicode character escape code"
  | .unexpectedColon => "found unexpected ':'"
  | .keyWithoutColon => "could not find expected ':'"
  | .misplacedIndicator => "found an indicator that is not allowed in this context"
  | .missingNode => "did not find expected node content"
  | .missingEntry => "did not find expected entry or end of the collection"
  | .missingDocumentStart => "did not find expected <document start>"
  | .undefinedTag => "found undefined tag handle"
  | .undefinedAlias => "unknown anchor"
  | .severalDocuments => "found more than one document"
  | .expected what => s!"expected {what}"
  | .duplicateField name => s!"duplicate field `{name}`"

end ClusterEvidence.Yaml
