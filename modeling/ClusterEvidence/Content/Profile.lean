import ClusterEvidence.Content.Document

/-!
# Profiles

A profile selects rules by their ids and may extend another profile. A document may hold several
profiles with one id; they count as one, with the selections of all in document order and the first
`extends` that is not empty.
-/

namespace ClusterEvidence

/-- A profile: the ids of the rules that it selects, and the profile that it extends. -/
structure Profile where
  id : String
  selected : List String
  extends? : Option String
  deriving DecidableEq, Repr

namespace Profile

/-- The rule that a `select` element selects. -/
def selection? (select : Element) : Option String :=
  if select.attribute? "selected" = some "true" then
    let rule := select.attributeD "idref"
    if rule = "" then none else some rule
  else none

/-- The rules that a profile element selects, in document order. -/
def selections (profile : Element) : List String :=
  (profile.findAll Element.xccdf "select").filterMap selection?

/-- The profile that a profile element extends. -/
def extended? (profile : Element) : Option String :=
  (profile.attribute? "extends").filter (· ≠ "")

/-- The profile with what one more element of its id says: its selections follow, and what it
extends counts unless an element before it extends something. -/
def add (profile : Profile) (element : Element) : Profile :=
  { profile with
    selected := profile.selected ++ selections element
    extends? := profile.extends?.or (extended? element) }

/-- What is found of the profile of an id with one more profile element. -/
def findNext (id : String) (found : Option Profile) (element : Element) : Option Profile :=
  if element.attributeD "id" = id then some ((found.getD ⟨id, [], none⟩).add element) else found

/-- The profile of an id, if the document has one. -/
def find (document : Document) (id : String) : Option Profile :=
  (document.xccdfElements "Profile").foldl (findNext id) none

end Profile

end ClusterEvidence
