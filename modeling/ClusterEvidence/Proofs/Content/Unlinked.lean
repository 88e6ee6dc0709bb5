import ClusterEvidence.Content.Directive
import ClusterEvidence.Proofs.Content.Profile
import ClusterEvidence.Proofs.Traverse

/-!
# Documents without their links

What a document says apart from what its profiles extend is the document with every attribute
`extends` taken out. The elements stay in their order, and their names, texts and other attributes
stay as they are, so every look-up gives the element that it gave before without its links. From
there it follows one construct at a time: variables, directives, rules and selections do not depend
on what a profile extends.

## Main results

* `preorder_unlinked`, `attribute?_unlinked` — what stays of a document without its links.
* `resourcesOfRule_unlinked`, `collect_unlinked`, `selectedIn_unlinked` — what does not depend on
  them.
-/

namespace ClusterEvidence

namespace Element

mutual

/-- An element without any attribute `extends`, its own or one below it. -/
def unlinked : Element → Element
  | ⟨name, namespaceUri?, attributes, children, text⟩ =>
      ⟨name, namespaceUri?, attributes.filter (·.1 ≠ "extends"), unlinkedAll children, text⟩

/-- Elements without any attribute `extends`. -/
def unlinkedAll : List Element → List Element
  | [] => []
  | element :: others => element.unlinked :: unlinkedAll others

end

variable {element : Element} {name namespaceUri : String}

theorem unlinkedAll_eq_map (elements : List Element) :
    unlinkedAll elements = elements.map unlinked := by
  induction elements with
  | nil => rfl
  | cons element elements ih => rw [unlinkedAll, ih, List.map_cons]

@[simp] theorem text_unlinked : element.unlinked.text = element.text := by
  cases element
  rw [unlinked]

@[simp] theorem name_unlinked : element.unlinked.name = element.name := by
  cases element
  rw [unlinked]

@[simp] theorem is_unlinked :
    element.unlinked.is namespaceUri name = element.is namespaceUri name := by
  cases element
  rw [unlinked]
  rfl

@[simp] theorem children_unlinked : element.unlinked.children = element.children.map unlinked := by
  cases element
  rw [unlinked, unlinkedAll_eq_map]

/-- Every other attribute keeps its value. -/
theorem attribute?_unlinked (h : name ≠ "extends") :
    element.unlinked.attribute? name = element.attribute? name := by
  obtain ⟨_, _, attributes, _, _⟩ := element
  rw [unlinked, attribute?, attribute?]
  dsimp only
  induction attributes with
  | nil => rfl
  | cons entry attributes ih =>
      obtain ⟨key, value⟩ := entry
      by_cases hkey : key = "extends"
      · have hname : (name == key) = false := by simpa [hkey] using h
        rw [List.filter_cons_of_neg (by simpa using hkey), ih, List.lookup_cons, hname]
      · rw [List.filter_cons_of_pos (by simpa using hkey), List.lookup_cons, List.lookup_cons, ih]

theorem attributeD_unlinked (h : name ≠ "extends") :
    element.unlinked.attributeD name = element.attributeD name := by
  rw [attributeD, attributeD, attribute?_unlinked h]

/-! ## Look-ups -/

mutual

/-- The elements of a document stay in their order. -/
theorem preorder_unlinked : ∀ element : Element,
    element.unlinked.preorder = element.preorder.map unlinked
  | ⟨name, namespaceUri?, attributes, children, text⟩ => by
      rw [unlinked, preorder, preorder, preorderAll_unlinkedAll children, List.map_cons, unlinked]

private theorem preorderAll_unlinkedAll : ∀ elements : List Element,
    preorderAll (unlinkedAll elements) = (preorderAll elements).map unlinked
  | [] => rfl
  | element :: others => by
      rw [unlinkedAll, preorderAll, preorderAll, preorder_unlinked element,
        preorderAll_unlinkedAll others, List.map_append]

end

theorem descendants_unlinked : element.unlinked.descendants = element.descendants.map unlinked := by
  rw [descendants_eq, descendants_eq, children_unlinked, ← unlinkedAll_eq_map,
    preorderAll_unlinkedAll]

/-- What is kept of a list of elements does not depend on links that are not looked at. -/
theorem filter_map_unlinked {p : Element → Bool} (h : ∀ element, p element.unlinked = p element)
    (elements : List Element) :
    (elements.map unlinked).filter p = (elements.filter p).map unlinked := by
  rw [List.filter_map]
  exact congrArg _ (List.filter_congr fun element _ => h element)

private theorem findAll_unlinked :
    element.unlinked.findAll namespaceUri name =
      (element.findAll namespaceUri name).map unlinked := by
  rw [findAll, findAll, descendants_unlinked, filter_map_unlinked fun _ => is_unlinked]

private theorem findById_unlinked {id : String} :
    element.unlinked.findById id = (element.findById id).map unlinked := by
  have hid : ((fun descendant : Element => descendant.attribute? "id" == some id) ∘ unlinked) =
      fun descendant => descendant.attribute? "id" == some id := by
    funext descendant
    exact congrArg (· == some id) (attribute?_unlinked (by decide))
  rw [findById, findById, descendants_unlinked, List.find?_map, hid]

end Element

/-! ## Directives -/

namespace Directive

variable {values : VariableTable} {warning endpoint : Element}

private theorem template_unlinked : template endpoint.unlinked = template endpoint := by
  rw [template, template, Element.text_unlinked]

private theorem isEndpoint_unlinked (endpoint : Element) :
    isEndpoint endpoint.unlinked = isEndpoint endpoint := by
  rw [isEndpoint, isEndpoint, Element.name_unlinked, Element.attributeD_unlinked (by decide)]

private theorem companionsOf?_unlinked :
    companionsOf? warning.unlinked endpoint.unlinked =
      (companionsOf? warning endpoint).map fun (filter, dump) =>
        (filter.unlinked, dump.unlinked) := by
  rw [companionsOf?, companionsOf?, Element.attribute?_unlinked (by decide)]
  cases endpoint.attribute? "id" with
  | none => rfl
  | some id =>
      by_cases hid : id = ""
      · simp [hid]
      · simp only [hid, if_false, companions?, Element.findById_unlinked]
        cases warning.findById ("filter-" ++ id) <;> cases warning.findById ("dump-" ++ id) <;> rfl

private theorem resourceOf_unlinked :
    resourceOf values warning.unlinked endpoint.unlinked = resourceOf values warning endpoint := by
  rw [resourceOf, resourceOf, template_unlinked, companionsOf?_unlinked]
  cases companionsOf? warning endpoint with
  | none => rfl
  | some companions =>
      obtain ⟨filter, dump⟩ := companions
      simp only [Option.map_some, template_unlinked]

private theorem resourcesOfWarning_unlinked (values : VariableTable) (warning : Element) :
    resourcesOfWarning values warning.unlinked = resourcesOfWarning values warning := by
  rw [resourcesOfWarning, resourcesOfWarning, Element.descendants_unlinked,
    Element.filter_map_unlinked isEndpoint_unlinked, gather_map]
  simp only [resourceOf_unlinked]

private theorem firstResources_unlinked (values : VariableTable) (warnings : List Element) :
    firstResources values (warnings.map Element.unlinked) = firstResources values warnings := by
  induction warnings with
  | nil => rfl
  | cons warning warnings ih =>
      rw [List.map_cons, firstResources, firstResources, resourcesOfWarning_unlinked, ih]

/-- The resources of a rule do not depend on links. -/
theorem resourcesOfRule_unlinked (values : VariableTable) (rule : Element) :
    resourcesOfRule values rule.unlinked = resourcesOfRule values rule := by
  rw [resourcesOfRule, resourcesOfRule, Element.findAll_unlinked, firstResources_unlinked]

end Directive

/-! ## Documents -/

/-- A document without what its profiles extend. -/
def Document.unlinked (document : Document) : Document := ⟨document.origin, document.root.unlinked⟩

private theorem Document.xccdfElements_unlinked (document : Document) (name : String) :
    document.unlinked.xccdfElements name = (document.xccdfElements name).map Element.unlinked := by
  rw [Document.xccdfElements_eq, Document.xccdfElements_eq, Document.unlinked,
    Element.preorder_unlinked, Element.filter_map_unlinked fun _ => Element.is_unlinked]

namespace VariableTable

private theorem defaults_unlinked (declaration : Element) :
    defaults declaration.unlinked = defaults declaration := by
  have hdefault (value : Element) :
      (value.unlinked.is Element.xccdf "value" && isDefault value.unlinked) =
        (value.is Element.xccdf "value" && isDefault value) := by
    rw [Element.is_unlinked, isDefault, isDefault, Element.attribute?_unlinked (by decide),
      Element.attributeD_unlinked (by decide)]
  rw [defaults, defaults, Element.attributeD_unlinked (by decide), Element.children_unlinked,
    Element.filter_map_unlinked hdefault]
  simp only [List.map_map, Function.comp_def, Element.text_unlinked]

private theorem setting?_unlinked (element : Element) :
    setting? element.unlinked = setting? element := by
  rw [setting?, setting?, Element.attributeD_unlinked (by decide), Element.text_unlinked]

/-- The variables of a document do not depend on links. -/
theorem collect_unlinked (document : Document) :
    collect [document.unlinked] = collect [document] := by
  have hassignments : assignments document.unlinked = assignments document := by
    rw [assignments, assignments, Document.xccdfElements_unlinked, Document.xccdfElements_unlinked,
      List.flatMap_map, List.filterMap_map]
    simp only [Function.comp_def, defaults_unlinked, setting?_unlinked]
  rw [collect, collect, List.flatMap_singleton, List.flatMap_singleton, hassignments]

end VariableTable

namespace Profile

private theorem isSelection_unlinked (element : Element) :
    IsSelection element.unlinked ↔ IsSelection element := by
  rw [IsSelection, IsSelection, Element.is_unlinked, Element.attribute?_unlinked (by decide),
    Element.attributeD_unlinked (by decide)]

private theorem selectedBelow_unlinked (profile : Element) :
    selectedBelow profile.unlinked = selectedBelow profile := by
  have hselection (element : Element) :
      decide (IsSelection element.unlinked) = decide (IsSelection element) :=
    decide_eq_decide.2 (isSelection_unlinked element)
  have hrule (element : Element) :
      element.unlinked.attributeD "idref" = element.attributeD "idref" :=
    Element.attributeD_unlinked (by decide)
  rw [selectedBelow, selectedBelow, Element.children_unlinked, ← Element.unlinkedAll_eq_map,
    Element.preorderAll_unlinkedAll, Element.filter_map_unlinked hselection, List.map_map]
  simp only [Function.comp_def, hrule]

/-- What the profiles of a document select does not depend on links. -/
theorem selectedIn_unlinked (document : Document) (id : String) :
    selectedIn document.unlinked id = selectedIn document id := by
  have hid (element : Element) :
      decide (element.unlinked.attributeD "id" = id) = decide (element.attributeD "id" = id) := by
    rw [Element.attributeD_unlinked (by decide)]
  rw [selectedIn, selectedIn, elementsOf, elementsOf, Document.unlinked,
    Element.preorder_unlinked, Element.filter_map_unlinked fun _ => Element.is_unlinked,
    Element.filter_map_unlinked hid, List.flatMap_map]
  simp only [selectedBelow_unlinked]

end Profile

end ClusterEvidence
