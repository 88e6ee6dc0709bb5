import ClusterEvidence.Content.Profile
import ClusterEvidence.Proofs.Content.Element

/-!
# Profiles with one id

All profile elements with one id in a document are taken together, in document order. Each of them
adds its selections, and the first that extends something decides what is extended. One element does
this to what was found before it (`selected_findNext`, `extends?_findNext`), so that finding a
profile gives the selections of all and the first `extends` that is not empty.

## Main results

* `selected_find`, `extends?_find` — what is found of the profile of an id.
-/

namespace ClusterEvidence.Profile

variable {id : String}

/-- The elements of the profiles with an id, in document order. -/
def elementsOf (document : Document) (id : String) : List Element :=
  (document.root.preorder.filter (·.is Element.xccdf "Profile")).filter (·.attributeD "id" = id)

/-- Whether an element selects a rule: a `select` element that says so and names one. -/
def IsSelection (element : Element) : Prop :=
  element.is Element.xccdf "select" = true ∧ element.attribute? "selected" = some "true" ∧
    element.attributeD "idref" ≠ ""

instance (element : Element) : Decidable (IsSelection element) := by
  unfold IsSelection
  infer_instance

/-- What the elements below a profile select, in document order. -/
def selectedBelow (profile : Element) : List String :=
  ((Element.preorderAll profile.children).filter fun element => IsSelection element).map
    (·.attributeD "idref")

/-- What the profiles with an id select, in document order. -/
def selectedIn (document : Document) (id : String) : List String :=
  (elementsOf document id).flatMap selectedBelow

/-- The first profile that the profiles with an id extend, in document order. -/
def extendedIn (document : Document) (id : String) : Option String :=
  ((elementsOf document id).map (·.attributeD "extends")).find? (· ≠ "")

private theorem filterMap_selection? (elements : List Element) :
    (elements.filter (·.is Element.xccdf "select")).filterMap selection? =
      (elements.filter fun element => IsSelection element).map (·.attributeD "idref") := by
  rw [List.filterMap_filter, ← List.filterMap_eq_map, List.filterMap_filter]
  refine congrArg (fun selects => elements.filterMap selects) (funext fun element => ?_)
  simp only [selection?, IsSelection]
  by_cases his : element.is Element.xccdf "select" = true <;>
    by_cases hselected : element.attribute? "selected" = some "true" <;>
      by_cases hrule : element.attributeD "idref" = "" <;> simp [his, hselected, hrule]

private theorem selections_eq (profile : Element) : selections profile = selectedBelow profile := by
  rw [selections, Element.findAll, Element.descendants_eq, filterMap_selection?, selectedBelow]

/-! ## One element -/

/-- An element with the id adds its selections. -/
theorem selected_findNext (found : Option Profile) (element : Element) :
    (findNext id found element).elim [] selected =
      found.elim [] selected ++
        if element.attributeD "id" = id then selectedBelow element else [] := by
  unfold findNext
  split
  · cases found <;> simp [add, selections_eq]
  · rw [List.append_nil]

/-- An element with the id decides what is extended unless one before it did. -/
theorem extends?_findNext (found : Option Profile) (element : Element) :
    (findNext id found element).bind extends? =
      (found.bind extends?).or
        (if element.attributeD "id" = id then extended? element else none) := by
  unfold findNext
  split
  · cases found <;> simp [add]
  · rw [Option.or_none]

/-! ## All elements -/

private theorem selected_foldl (elements : List Element) (found : Option Profile) :
    (elements.foldl (findNext id) found).elim [] selected =
      found.elim [] selected ++
        (elements.filter (·.attributeD "id" = id)).flatMap selectedBelow := by
  induction elements generalizing found with
  | nil => simp
  | cons element elements ih =>
      rw [List.foldl_cons, ih, selected_findNext, List.append_assoc]
      by_cases h : element.attributeD "id" = id <;> simp [h]

private theorem extends?_foldl (elements : List Element) (found : Option Profile) :
    (elements.foldl (findNext id) found).bind extends? =
      (found.bind extends?).or
        ((elements.filter (·.attributeD "id" = id)).findSome? extended?) := by
  induction elements generalizing found with
  | nil => simp
  | cons element elements ih =>
      rw [List.foldl_cons, ih, extends?_findNext, Option.or_assoc]
      by_cases h : element.attributeD "id" = id
      · rw [List.filter_cons_of_pos (by simpa using h), List.findSome?_cons, if_pos h]
        cases extended? element <;> rfl
      · rw [List.filter_cons_of_neg (by simpa using h), if_neg h, Option.none_or]

private theorem findSome?_extended? (elements : List Element) :
    elements.findSome? extended? =
      (elements.map (·.attributeD "extends")).find? (· ≠ "") := by
  induction elements with
  | nil => rfl
  | cons element elements ih =>
      rw [List.findSome?_cons, List.map_cons, List.find?_cons, ih, extended?, Element.attributeD]
      cases element.attribute? "extends" with
      | none => rfl
      | some base => by_cases h : base = "" <;> simp [Option.filter, h]

/-! ## The profile of an id -/

/-- The selections of all elements with the id are found. -/
theorem selected_find (document : Document) (id : String) :
    (find document id).elim [] selected = selectedIn document id := by
  rw [find, Document.xccdfElements_eq, selected_foldl]
  rfl

/-- The first profile that is extended is found. -/
theorem extends?_find (document : Document) (id : String) :
    (find document id).bind extends? = extendedIn document id := by
  rw [find, Document.xccdfElements_eq, extends?_foldl, findSome?_extended?]
  rfl

end ClusterEvidence.Profile
