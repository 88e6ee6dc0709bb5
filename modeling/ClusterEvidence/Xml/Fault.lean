/-!
# What can be wrong with a document
-/

namespace ClusterEvidence.Xml

/-- Why a document was refused. -/
inductive Fault where
  /-- The bytes are not UTF-8. -/
  | notText
  /-- The text does not follow the grammar. -/
  | malformed
  /-- A reference that is no character reference and names no declared entity. -/
  | badReference (name : String)
  /-- Entities refer to one another without end. -/
  | entityLoop
  /-- An entity brings a `<` into the value of an attribute. -/
  | markupInAttribute
  /-- An end tag does not match the element that is open. -/
  | mismatchedTag
  /-- An element is still open at the end. -/
  | unclosedElement
  /-- There is no element. -/
  | noRoot
  /-- A qualifier that no declaration binds. -/
  | unknownNamespace (qualifier : String)
  /-- A declaration that may not be made. -/
  | reservedNamespace
  /-- An attribute or a namespace is given twice. -/
  | duplicateAttribute (name : String)
  deriving DecidableEq, Repr

/-- The wording of a fault. -/
def Fault.message : Fault → String
  | notText => "invalid UTF-8"
  | malformed => "malformed markup"
  | badReference name => "unknown or malformed reference '" ++ name ++ "'"
  | entityLoop => "a possible entity reference loop"
  | markupInAttribute => "an escaped '<' in the value of an attribute"
  | mismatchedTag => "an end tag does not match"
  | unclosedElement => "an element is not closed"
  | noRoot => "the document has no element"
  | unknownNamespace qualifier => "unknown namespace '" ++ qualifier ++ "'"
  | reservedNamespace => "a reserved namespace is declared"
  | duplicateAttribute name => "'" ++ name ++ "' is given twice"

end ClusterEvidence.Xml
