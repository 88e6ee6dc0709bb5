/-!
# Elements of content

Benchmarks and tailorings are trees of elements. An element knows its name and namespace, its
attributes, its child elements and its inner text, which is the character data of all elements below
it as well. Look-ups go through the descendants in document order: an element before its children,
and a child with all that is below it before the next.

The order is produced by an explicit stack (`Descendants`); the recursive listing that it agrees
with is `preorder`.
-/

namespace ClusterEvidence

/-- An element with everything below it. -/
structure Element where
  /-- The name without its qualifier. -/
  name : String
  namespaceUri? : Option String
  /-- Names without their qualifiers, and values. -/
  attributes : List (String × String)
  children : List Element
  text : String
  deriving Repr, Inhabited

namespace Element

/-- The namespace of XCCDF 1.2. -/
def xccdf : String := "http://checklists.nist.gov/xccdf/1.2"

/-- Whether an element has this name in this namespace. -/
def is (element : Element) (namespaceUri name : String) : Bool :=
  element.name == name && element.namespaceUri? == some namespaceUri

/-- The value of the first attribute of this name. -/
def attribute? (element : Element) (name : String) : Option String :=
  element.attributes.lookup name

/-- The value of an attribute, empty when it is absent. -/
def attributeD (element : Element) (name : String) : String :=
  (element.attribute? name).getD ""

/-! ## Descendants -/

mutual

/-- The number of elements in a tree. -/
def size : Element → Nat
  | ⟨_, _, _, children, _⟩ => sizeAll children + 1

/-- The number of elements in several trees. -/
def sizeAll : List Element → Nat
  | [] => 0
  | element :: others => element.size + sizeAll others

end

mutual

/-- An element and all elements below it, in document order. -/
def preorder : Element → List Element
  | ⟨name, namespaceUri?, attributes, children, text⟩ =>
      ⟨name, namespaceUri?, attributes, children, text⟩ :: preorderAll children

/-- The elements of several trees, in document order. -/
def preorderAll : List Element → List Element
  | [] => []
  | element :: others => element.preorder ++ preorderAll others

end

theorem size_eq (element : Element) : element.size = sizeAll element.children + 1 := by
  cases element
  rw [size]

private theorem sizeAll_append (elements others : List Element) :
    sizeAll (elements ++ others) = sizeAll elements + sizeAll others := by
  induction elements with
  | nil => simp [sizeAll]
  | cons element elements ih => simp only [List.cons_append, sizeAll, ih]; omega

/-- A visit to elements: the stack of those that wait, of which the last comes next. -/
structure Descendants where
  stack : Array Element

namespace Descendants

/-- The visit to what is below an element. -/
def below (element : Element) : Descendants := ⟨element.children.reverse.toArray⟩

/-- The next element, and the visit after it. Its children are put on the stack from the last to the
first, so that the first comes next. -/
def next? (visit : Descendants) : Option (Element × Descendants) :=
  match visit.stack.back? with
  | none => none
  | some element => some (element, ⟨visit.stack.pop ++ element.children.reverse⟩)

/-- The elements on the stack, the next one first. -/
def waiting (visit : Descendants) : List Element := visit.stack.toListRev

/-- The number of elements that a visit still has to come to. -/
def size (visit : Descendants) : Nat := sizeAll visit.waiting

theorem waiting_below (element : Element) : (below element).waiting = element.children := by
  simp [below, waiting]

/-- A visit is over when nothing waits. -/
theorem waiting_of_next?_eq_none {visit : Descendants} (h : visit.next? = none) :
    visit.waiting = [] := by
  unfold next? at h
  split at h
  · next hback =>
      rw [Array.back?_eq_none_iff] at hback
      simp [waiting, hback]
  · cases h

/-- The first that waits comes next, and its children are put in front of the others. -/
theorem exists_waiting_of_next? {visit rest : Descendants} {element : Element}
    (h : visit.next? = some (element, rest)) :
    ∃ others, visit.waiting = element :: others ∧ rest.waiting = element.children ++ others := by
  unfold next? at h
  split at h
  · cases h
  · next first hback =>
      obtain ⟨stack, hstack⟩ := Array.back?_eq_some_iff.1 hback
      simp only [Option.some.injEq, Prod.mk.injEq] at h
      obtain ⟨rfl, rfl⟩ := h
      exact ⟨stack.toListRev, by simp [waiting, hstack], by simp [waiting, hstack]⟩

/-- Every step of a visit leaves one element less. -/
private theorem size_of_next? {visit rest : Descendants} {element : Element}
    (h : visit.next? = some (element, rest)) : visit.size = rest.size + 1 := by
  obtain ⟨others, hvisit, hrest⟩ := exists_waiting_of_next? h
  simp only [size, hvisit, hrest, sizeAll, sizeAll_append, element.size_eq]
  omega

/-- The elements that a visit comes to, in order. -/
def toList (visit : Descendants) : List Element :=
  match _hnext : visit.next? with
  | none => []
  | some (element, rest) => element :: rest.toList
termination_by visit.size
decreasing_by
  have := size_of_next? _hnext
  omega

end Descendants

/-- All elements below an element, in document order. -/
def descendants (element : Element) : List Element := (Descendants.below element).toList

/-! ## Look-ups -/

/-- The descendants of this name in this namespace. -/
def findAll (element : Element) (namespaceUri name : String) : List Element :=
  element.descendants.filter (·.is namespaceUri name)

/-- The first descendant with this id. -/
def findById (element : Element) (id : String) : Option Element :=
  element.descendants.find? fun descendant => descendant.attribute? "id" == some id

end Element

end ClusterEvidence
