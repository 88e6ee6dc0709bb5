import ClusterEvidence.Content.Element
import ClusterEvidence.Error
import ClusterEvidence.Text.Bytes
import ClusterEvidence.Xml.Prolog

/-!
# Documents of content

A document is read from XML: its prolog, its one root element, and comments and instructions after
it. Reading matches the tags, finds the namespace of every qualified name, and collects the inner
text of every element. What could not be read is named by the document's origin.

An entity may end an element that began outside it, even the root. What then still stands within
the root as it is written has to be well formed, but the document is the root alone. The attributes
of a start tag that has no end are those of the next tag.
-/

namespace ClusterEvidence

namespace Xml

/-! ## Namespaces -/

/-- The namespaces in scope: what each qualifier stands for, nothing for the default. The first
entry of a qualifier counts. -/
abbrev Scope := List (Option (List Char) × List Char)

/-- The namespace that the qualifier `xml` always stands for. -/
def xmlUri : List Char := "http://www.w3.org/XML/1998/namespace".toList

/-- The namespace of namespace declarations, which is never declared. -/
def xmlnsUri : List Char := "http://www.w3.org/2000/xmlns/".toList

/-- The qualifier, or the whole name, of a namespace declaration. -/
def xmlns : List Char := "xmlns".toList

/-- The qualifier that is bound without a declaration. -/
def xml : List Char := "xml".toList

/-- The namespaces that the attributes of one element declare. A reserved namespace is bound to no
other qualifier than its own, nor is another one bound to that. -/
def declared : Scope → List (QName × List Char) → Except Fault Scope
  | own, [] => .ok own
  | own, (name, uri) :: attributes =>
      if name.qualifier = xmlns then
        if uri = xmlnsUri ∨ (name.base = xml ↔ uri ≠ xmlUri) then .error .reservedNamespace
        else if own.any (·.1 == some name.base) then
          .error (.duplicateAttribute (String.ofList name.base))
        else if uri = xmlUri then declared own attributes
        else declared (own ++ [(some name.base, uri)]) attributes
      else if name.base = xmlns then
        if uri = xmlnsUri ∨ uri = xmlUri then .error .reservedNamespace
        else declared (own ++ [(none, uri)]) attributes
      else declared own attributes

/-- The namespaces in scope of an element that declares some of its own. -/
def Scope.extend (inherited own : Scope) : Scope :=
  own ++ inherited.filter fun entry => !own.any (·.1 == entry.1)

/-- The namespace that a qualifier stands for; none when it is empty and there is no default. -/
def Scope.find (scope : Scope) (qualifier : List Char) : Except Fault (Option (List Char)) :=
  let key := if qualifier.isEmpty then none else some qualifier
  match scope.lookup key with
  | some uri => .ok (some uri)
  | none =>
      if qualifier.isEmpty then .ok none
      else .error (.unknownNamespace (String.ofList qualifier))

/-- Whether an attribute declares a namespace. -/
def isDeclaration (name : QName) : Bool := name.qualifier == xmlns || name.base == xmlns

/-- The attributes of an element that declare no namespace, by their names without qualifiers.
No two have the same name in the same namespace; without a qualifier they are in none. -/
def attributes (scope : Scope) :
    List (Option (List Char) × List Char) → List (QName × List Char) →
      Except Fault (List (String × String))
  | _, [] => .ok []
  | seen, (name, value) :: rest =>
      if isDeclaration name then attributes scope seen rest
      else do
        let uri ←
          if name.qualifier = xml then .ok (some xmlUri)
          else if name.qualifier.isEmpty then .ok none
          else scope.find name.qualifier
        if seen.contains (uri, name.base) then
          .error (.duplicateAttribute (String.ofList name.base))
        else do
          let others ← attributes scope ((uri, name.base) :: seen) rest
          .ok ((String.ofList name.base, String.ofList value) :: others)

/-! ## Elements -/

/-- An element that is still open: its tag, the namespaces in scope, and its children and text so
far, both last first. -/
structure Frame where
  name : QName
  scope : Scope
  element : Element
  children : List Element
  text : List String

/-- The namespaces in scope of a tag inside a scope, and its attributes. -/
def resolve (inherited : Scope) (given : List (QName × List Char)) :
    Except Fault (Scope × List (String × String)) := do
  let own ← declared [] given
  let scope := inherited.extend own
  let attributes ← attributes scope [] given
  .ok (scope, attributes)

/-- Opens an element inside a scope. -/
def openFrame (inherited : Scope) (name : QName) (given : List (QName × List Char)) :
    Except Fault Frame := do
  let (scope, attributes) ← resolve inherited given
  let uri ← scope.find name.qualifier
  .ok
    { name, scope
      element := ⟨String.ofList name.base, uri.map String.ofList, attributes, [], ""⟩
      children := []
      text := [] }

/-- The element of a frame. -/
def Frame.close (frame : Frame) : Element :=
  { frame.element with
    children := frame.children.reverse
    text := String.join frame.text.reverse }

/-- The frame with one more child, whose text is part of its own. -/
def Frame.addChild (frame : Frame) (child : Element) : Frame :=
  { frame with children := child :: frame.children, text := child.text :: frame.text }

/-- Where reading stands: the open elements, innermost first, the root once it is closed, and the
attributes of start tags that have no end. -/
structure Building where
  frames : List Frame
  root : Option Element
  pending : List (QName × List Char)

/-- Puts an element that is complete into its place among the elements that are still open. Only
the first one outside all others is the root. -/
def Building.add (building : Building) (element : Element) (frames : List Frame) : Building :=
  match frames with
  | [] => ⟨[], building.root.or (some element), []⟩
  | frame :: frames => ⟨frame.addChild element :: frames, building.root, []⟩

/-- Reads a start tag, with the attributes that wait for one. -/
def Building.startTag (building : Building) (name : QName) (given : List (QName × List Char))
    (ending : TagEnd) : Except Fault Building := do
  let given := building.pending ++ given
  let scope := (building.frames.head?.map Frame.scope).getD []
  if name.qualifier = xmlns then .error .reservedNamespace
  else
    match ending with
    | .missing => do
        let _ ← declared [] given
        .ok { building with pending := given }
    | .opened => do
        let frame ← openFrame scope name given
        .ok { building with frames := frame :: building.frames, pending := [] }
    | .closed => do
        let frame ← openFrame scope name given
        .ok (building.add frame.close building.frames)

/-- Reads an end tag. The attributes that wait for a tag are resolved and dropped. -/
def Building.endTag (building : Building) (name : QName) : Except Fault Building :=
  match building.frames with
  | [] => .error .mismatchedTag
  | frame :: frames => do
      let _ ← resolve frame.scope building.pending
      if frame.name = name then .ok (building.add frame.close frames) else .error .mismatchedTag

/-- Reads one piece. Text outside all elements is dropped. -/
def Building.step (building : Building) : Piece → Except Fault Building
  | .start name given ending => building.startTag name given ending
  | .finish name => building.endTag name
  | .text text =>
      match building.frames with
      | [] => .ok building
      | frame :: frames =>
          let frame := { frame with text := String.ofList text :: frame.text }
          .ok { building with frames := frame :: frames }

/-- The events of a root element after which only comments and instructions follow. -/
def rootEvents? (text : List Char) : Option (List Event) := do
  let (events, text) ← Event.element? text
  let text ← skipMiscellaneous text
  if text.isEmpty then some events else none

/-- The root element of a text. -/
def readText (text : List Char) : Except Fault Element := do
  let text := match text with
    | '\ufeff' :: rest => rest
    | _ => text
  match prolog? text with
  | none => .error .malformed
  | some (entities, content) =>
      match rootEvents? content with
      | none => .error .malformed
      | some events => do
          let pieces ← pieces entities events
          let building ← pieces.foldlM Building.step ⟨[], none, []⟩
          match building.frames, building.root with
          | [], some root => .ok root
          | [], none => .error .noRoot
          | _ :: _, _ => .error .unclosedElement

/-- The root element of a document. -/
def read (bytes : Bytes) : Except Fault Element :=
  match Text.decode? bytes with
  | some text => readText text
  | none => .error .notText

end Xml

/-! ## The document -/

/-- A document of content and where it came from. -/
structure Document where
  origin : String
  root : Element

namespace Document

/-- Reads a document. -/
def read (bytes : Bytes) (origin : String) : Except Error Document :=
  match Xml.read bytes with
  | .ok root => .ok ⟨origin, root⟩
  | .error fault => .error (.contentParse origin fault)

/-- The XCCDF elements of a name, in document order, the root among them. -/
def xccdfElements (document : Document) (name : String) : List Element :=
  (document.root :: document.root.descendants).filter (·.is Element.xccdf name)

end Document

end ClusterEvidence
