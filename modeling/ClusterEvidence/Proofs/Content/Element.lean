import ClusterEvidence.Content.Document

/-!
# Document order

The stack of a visit holds the trees that are still to be listed, so what a visit comes to is their
listing one after another. Every look-up in a document therefore goes through its elements in
document order.

## Main results

* `descendants_eq` — the descendants of an element are listed in document order.
* `xccdfElements_eq` — so are the elements of a name in a document, the root among them.
-/

namespace ClusterEvidence

namespace Element

theorem preorder_eq (element : Element) :
    element.preorder = element :: preorderAll element.children := by
  cases element
  rw [preorder]

theorem preorderAll_append (elements others : List Element) :
    preorderAll (elements ++ others) = preorderAll elements ++ preorderAll others := by
  induction elements with
  | nil => rfl
  | cons element elements ih =>
      rw [List.cons_append, preorderAll, preorderAll, ih, List.append_assoc]

/-- A visit comes to the trees that wait, one after another. -/
private theorem Descendants.toList_eq (visit : Descendants) :
    visit.toList = preorderAll visit.waiting := by
  fun_induction Descendants.toList visit with
  | case1 visit hnext => rw [waiting_of_next?_eq_none hnext, preorderAll]
  | case2 visit element rest hnext ih =>
      obtain ⟨others, hvisit, hrest⟩ := exists_waiting_of_next? hnext
      rw [ih, hvisit, hrest, preorderAll_append, preorderAll, preorder_eq, List.cons_append]

/-- The descendants of an element are listed in document order. -/
theorem descendants_eq (element : Element) :
    element.descendants = preorderAll element.children := by
  rw [descendants, Descendants.toList_eq, Descendants.waiting_below]

end Element

/-- The elements of a name in a document are listed in document order. -/
theorem Document.xccdfElements_eq (document : Document) (name : String) :
    document.xccdfElements name = document.root.preorder.filter (·.is Element.xccdf name) := by
  rw [Document.xccdfElements, Element.descendants_eq, Element.preorder_eq]

end ClusterEvidence
