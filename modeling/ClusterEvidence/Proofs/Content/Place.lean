import ClusterEvidence.Proofs.Content.Element
import Mathlib.Data.List.Lex

/-!
# Places in a tree

An element of a tree stands at a place, which says by number which child to go down to. Document
order is the lexicographic order of places: an element comes before those below it, whose places
begin with its own, and what is below one child before what is below the next. Elements that look
alike stand at places of their own, so that it makes sense to say that a listing has each once
(`Lists`).

A visit is a row of calls. Each call gives the first of what is still to be listed (`call_fst`) and
leaves the rest (`unvisited_call`), so that the calls give the listing one by one and then nothing
more (`answer_eq`).

## Main results

* `answer_eq` — what each call of a visit gives.
* `lists_preorder`, `lists_descendants` — the listings have every element once, in document order.
* `visit_inDocumentOrder` — the visit below an element, and the look-ups that go by it.
-/

namespace ClusterEvidence

namespace Element

/-- Where an element stands in a tree: the numbers of the children on the way down to it. -/
abbrev Place := List Nat

/-- The element that stands at a place. -/
def at? (root : Element) : Place → Option Element
  | [] => some root
  | number :: place => root.children[number]?.bind (·.at? place)

mutual

/-- The elements of a tree with their places, in document order. -/
def placed : Element → List (Place × Element)
  | ⟨name, namespaceUri?, attributes, children, text⟩ =>
      ([], ⟨name, namespaceUri?, attributes, children, text⟩) :: placedFrom 0 children

/-- The elements of neighbouring trees with their places, when the first tree has this number. -/
def placedFrom (number : Nat) : List Element → List (Place × Element)
  | [] => []
  | element :: others =>
      element.placed.map (fun entry => (number :: entry.1, entry.2)) ++
        placedFrom (number + 1) others

end

/-- The elements found are those of a tree that are wanted, each once and in document order. -/
def Lists (root : Element) (Wanted : Place → Element → Prop) (found : List Element) : Prop :=
  ∃ entries : List (Place × Element), entries.Pairwise (·.1 < ·.1) ∧
    (∀ place element, (place, element) ∈ entries ↔
      root.at? place = some element ∧ Wanted place element) ∧
    found = entries.map (·.2)

/-- At a place stands an element that is wanted, and none that is wanted stands before it. -/
def IsEarliest (root : Element) (Wanted : Place → Element → Prop) (place : Place)
    (element : Element) : Prop :=
  root.at? place = some element ∧ Wanted place element ∧
    ∀ other found, root.at? other = some found → Wanted other found → place ≤ other

/-- The first attribute of a name has a value. -/
def HasFirst (name value : String) (element : Element) : Prop :=
  ∃ before after, element.attributes = before ++ (name, value) :: after ∧
    ∀ entry ∈ before, entry.1 ≠ name

private theorem attribute?_eq_some_iff {element : Element} {name value : String} :
    element.attribute? name = some value ↔ HasFirst name value element := by
  rw [attribute?, List.lookup_eq_some_iff]
  simp only [bne_iff_ne, ne_comm, HasFirst]

/-! ## Every element has a place -/

private theorem placed_eq (element : Element) :
    element.placed = ([], element) :: placedFrom 0 element.children := by
  cases element
  rw [placed]

mutual

/-- Without the places, the listing is the recursive one. -/
private theorem map_placed : ∀ element : Element, element.placed.map (·.2) = element.preorder
  | ⟨name, namespaceUri?, attributes, children, text⟩ => by
      rw [placed, preorder, List.map_cons, map_placedFrom 0 children]

private theorem map_placedFrom : ∀ (number : Nat) (elements : List Element),
    (placedFrom number elements).map (·.2) = preorderAll elements
  | _, [] => rfl
  | number, element :: others => by
      rw [placedFrom, preorderAll, List.map_append, List.map_map,
        map_placedFrom (number + 1) others,
        ← map_placed element]
      rfl

end

mutual

/-- The listing with places has exactly what stands in the tree. -/
private theorem mem_placed_iff : ∀ (root : Element) (place : Place) (element : Element),
    (place, element) ∈ root.placed ↔ root.at? place = some element
  | ⟨name, namespaceUri?, attributes, children, text⟩, place, element => by
      rw [placed, List.mem_cons, mem_placedFrom_iff 0 children]
      cases place with
      | nil => simp [at?, eq_comm]
      | cons number place => simp [at?, Option.bind_eq_some_iff]

theorem mem_placedFrom_iff : ∀ (first : Nat) (elements : List Element) (place : Place)
    (element : Element), (place, element) ∈ placedFrom first elements ↔
      ∃ number rest, place = (first + number) :: rest ∧
        ∃ child, elements[number]? = some child ∧ child.at? rest = some element
  | first, [], place, element => by simp [placedFrom]
  | first, child :: others, place, element => by
      rw [placedFrom, List.mem_append, mem_placedFrom_iff (first + 1) others]
      constructor
      · intro h
        rcases h with h | ⟨number, rest, hplace, found, hfound, hrest⟩
        · obtain ⟨⟨rest, found⟩, hmem, hentry⟩ := List.mem_map.1 h
          simp only [Prod.mk.injEq] at hentry
          obtain ⟨rfl, rfl⟩ := hentry
          exact ⟨0, rest, rfl, child, rfl, (mem_placed_iff child rest found).1 hmem⟩
        · refine ⟨number + 1, rest, ?_, found, hfound, hrest⟩
          rw [hplace, Nat.add_right_comm, Nat.add_assoc]
      · intro h
        obtain ⟨number, rest, rfl, found, hfound, hrest⟩ := h
        cases number with
        | zero =>
            obtain rfl : child = found := Option.some.inj hfound
            exact .inl (List.mem_map.2 ⟨(rest, element),
              (mem_placed_iff child rest element).2 hrest,
              rfl⟩)
        | succ number =>
            refine .inr ⟨number, rest, ?_, found, hfound, hrest⟩
            rw [Nat.add_right_comm, Nat.add_assoc]

end

mutual

/-- The listing is in document order, and so has no place twice. -/
private theorem pairwise_placed : ∀ element : Element, element.placed.Pairwise (·.1 < ·.1)
  | ⟨name, namespaceUri?, attributes, children, text⟩ => by
      rw [placed, List.pairwise_cons]
      refine ⟨fun entry hentry => ?_, pairwise_placedFrom 0 children⟩
      obtain ⟨number, rest, hplace, -⟩ := (mem_placedFrom_iff 0 children entry.1 entry.2).1 hentry
      rw [hplace]
      exact List.nil_lt_cons _ _

private theorem pairwise_placedFrom : ∀ (first : Nat) (elements : List Element),
    (placedFrom first elements).Pairwise (·.1 < ·.1)
  | _, [] => List.Pairwise.nil
  | first, element :: others => by
      rw [placedFrom, List.pairwise_append]
      refine ⟨?_, pairwise_placedFrom (first + 1) others, fun entry hentry later hlater => ?_⟩
      · rw [List.pairwise_map]
        exact (pairwise_placed element).imp fun h => List.cons_lt_cons_iff.2 (.inr ⟨rfl, h⟩)
      · obtain ⟨_, _, rfl⟩ := List.mem_map.1 hentry
        obtain ⟨number, rest, hplace, -⟩ :=
          (mem_placedFrom_iff (first + 1) others later.1 later.2).1 hlater
        have hbefore : first < first + 1 + number := by omega
        rw [hplace]
        exact List.cons_lt_cons_iff.2 (.inl hbefore)

end

/-! ## Listings -/

/-- The recursive listing has every element of a tree. -/
theorem lists_preorder (root : Element) : Lists root (fun _ _ => True) root.preorder :=
  ⟨root.placed, pairwise_placed root, fun place element => by simp [mem_placed_iff],
    (map_placed root).symm⟩

/-- The descendants are all elements of a tree but its root. -/
theorem lists_descendants (root : Element) :
    Lists root (fun place _ => place ≠ []) root.descendants := by
  refine ⟨placedFrom 0 root.children, pairwise_placedFrom 0 _, fun place element => ?_, ?_⟩
  · have hall := mem_placed_iff root place element
    rw [placed_eq, List.mem_cons, Prod.mk.injEq] at hall
    rw [← hall]
    constructor
    · intro h
      refine ⟨.inr h, ?_⟩
      obtain ⟨number, rest, rfl, -⟩ := (mem_placedFrom_iff 0 _ place element).1 h
      exact List.cons_ne_nil _ _
    · intro h
      exact h.1.resolve_left fun hroot => h.2 hroot.1
  · rw [map_placedFrom, descendants_eq]

variable {root : Element} {Wanted : Place → Element → Prop} {found : List Element}

/-- What is kept of a listing stays in its order. -/
private theorem Lists.filter (h : Lists root Wanted found) (p : Element → Bool) :
    Lists root (fun place element => Wanted place element ∧ p element) (found.filter p) := by
  obtain ⟨entries, hsorted, hmem, rfl⟩ := h
  refine ⟨entries.filter (p ·.2), hsorted.filter _, fun place element => ?_, ?_⟩
  · rw [List.mem_filter, hmem, and_assoc]
  · rw [List.filter_map]
    rfl

/-- A listing begins with the earliest element that is wanted. -/
private theorem Lists.head?_eq_some_iff (h : Lists root Wanted found) {element : Element} :
    found.head? = some element ↔ ∃ place, IsEarliest root Wanted place element := by
  obtain ⟨entries, hsorted, hmem, rfl⟩ := h
  cases entries with
  | nil =>
      have hnone : ∀ place, ¬ IsEarliest root Wanted place element := fun place hplace =>
        List.not_mem_nil ((hmem place element).2 ⟨hplace.1, hplace.2.1⟩)
      simp [hnone]
  | cons first entries =>
      obtain ⟨place, start⟩ := first
      have hstart := (hmem place start).1 List.mem_cons_self
      have hleast : ∀ other found, root.at? other = some found → Wanted other found →
          place ≤ other := by
        intro other found hother hwanted
        rcases List.mem_cons.1 ((hmem other found).2 ⟨hother, hwanted⟩) with heq | hrest
        · exact le_of_eq (Prod.mk.inj heq).1.symm
        · exact le_of_lt (List.rel_of_pairwise_cons hsorted hrest)
      constructor
      · intro h
        obtain rfl : start = element := Option.some.inj h
        exact ⟨place, hstart.1, hstart.2, hleast⟩
      · intro h
        obtain ⟨other, hother, hwanted, hbefore⟩ := h
        obtain rfl : place = other :=
          le_antisymm (hleast other element hother hwanted) (hbefore place start hstart.1 hstart.2)
        exact hstart.1.symm.trans hother

/-- A listing is empty when nothing is wanted. -/
private theorem Lists.eq_nil_iff (h : Lists root Wanted found) :
    found = [] ↔ ∀ place element, root.at? place = some element → ¬ Wanted place element := by
  obtain ⟨entries, -, hmem, rfl⟩ := h
  rw [List.map_eq_nil_iff, List.eq_nil_iff_forall_not_mem, Prod.forall]
  simp only [hmem, not_and]

/-! ## A visit, one call at a time -/

namespace Descendants

/-- What a call gives, and the visit after it; a visit that is over stays so. -/
def call (visit : Descendants) : Option Element × Descendants :=
  match visit.next? with
  | none => (none, visit)
  | some (element, rest) => (some element, rest)

/-- What the call of a number gives, the first call being number zero. -/
def answer : Nat → Descendants → Option Element
  | 0, visit => visit.call.1
  | number + 1, visit => visit.call.2.answer number

/-- What a visit has still to list. -/
def unvisited (visit : Descendants) : List Element := preorderAll visit.waiting

/-- A call gives the first of what is still to be listed. -/
theorem call_fst (visit : Descendants) : visit.call.1 = visit.unvisited.head? := by
  unfold call
  split
  · next hnext => rw [unvisited, waiting_of_next?_eq_none hnext]; rfl
  · next element rest hnext =>
      obtain ⟨others, hvisit, -⟩ := exists_waiting_of_next? hnext
      rw [unvisited, hvisit, preorderAll, preorder_eq]
      rfl

/-- A call leaves the rest of it to the calls that follow: the children of the element were put
where the element stood, in front of all that waited. -/
theorem unvisited_call (visit : Descendants) : visit.call.2.unvisited = visit.unvisited.tail := by
  unfold call
  split
  · next hnext => rw [unvisited, waiting_of_next?_eq_none hnext]; rfl
  · next element rest hnext =>
      obtain ⟨others, hvisit, hrest⟩ := exists_waiting_of_next? hnext
      rw [unvisited, unvisited, hvisit, hrest, preorderAll_append, preorderAll, preorder_eq]
      rfl

/-- The calls give what is to be listed, one by one, and then nothing more. -/
theorem answer_eq (number : Nat) (visit : Descendants) :
    visit.answer number = visit.unvisited[number]? := by
  induction number generalizing visit with
  | zero => rw [answer, call_fst, List.head?_eq_getElem?]
  | succ number ih => rw [answer, ih, unvisited_call, List.getElem?_tail]

end Descendants

mutual

theorem length_preorder : ∀ element : Element, element.preorder.length = element.size
  | ⟨name, namespaceUri?, attributes, children, text⟩ => by
      rw [preorder, size, List.length_cons, length_preorderAll children]

private theorem length_preorderAll : ∀ elements : List Element,
    (preorderAll elements).length = sizeAll elements
  | [] => rfl
  | element :: others => by
      rw [preorderAll, sizeAll, List.length_append, length_preorder element,
        length_preorderAll others]

end

/-! ## Look-ups -/

/-- What is known of the visit below an element, and of the look-ups that go by it. -/
structure InDocumentOrder (root : Element) : Prop where
  /-- The calls give the recursive listing without the root, one by one. -/
  answers : ∀ number, (Descendants.below root).answer number = root.preorder.tail[number]?
  /-- The visit is over when the calls have come to every element but the root. -/
  ends : ∀ number, (Descendants.below root).answer number = none ↔ root.size ≤ number + 1
  descendants : root.descendants = root.preorder.tail
  preorder : Lists root (fun _ _ => True) root.preorder
  once : Lists root (fun place _ => place ≠ []) root.descendants
  findAll : ∀ namespaceUri name,
    Lists root (fun place element => place ≠ [] ∧ element.is namespaceUri name)
      (root.findAll namespaceUri name)
  xccdfElements : ∀ origin name,
    Lists root (fun _ element => element.is xccdf name) (Document.xccdfElements ⟨origin, root⟩ name)
  findById : ∀ id element, root.findById id = some element ↔
    ∃ place, IsEarliest root (fun place element => place ≠ [] ∧ HasFirst "id" id element) place
      element
  findById_none : ∀ id, root.findById id = none ↔
    ∀ place element, root.at? place = some element → ¬ (place ≠ [] ∧ HasFirst "id" id element)

/-- The visit below an element ends and comes to every element once, in document order, and so do
the look-ups. -/
theorem visit_inDocumentOrder (root : Element) : InDocumentOrder root := by
  have htail : root.preorder.tail = preorderAll root.children := by
    rw [preorder_eq, List.tail_cons]
  have hanswer : ∀ number,
      (Descendants.below root).answer number = (preorderAll root.children)[number]? := by
    intro number
    rw [Descendants.answer_eq, Descendants.unvisited, Descendants.waiting_below]
  have hids : ∀ id, Lists root (fun place element => place ≠ [] ∧ HasFirst "id" id element)
      (root.descendants.filter fun element => element.attribute? "id" == some id) := by
    intro id
    simpa only [beq_iff_eq, attribute?_eq_some_iff] using
      (lists_descendants root).filter fun element => element.attribute? "id" == some id
  refine
    { answers := fun number => by rw [hanswer, htail]
      ends := fun number => ?_
      descendants := by rw [descendants_eq, htail]
      preorder := lists_preorder root
      once := lists_descendants root
      findAll := fun namespaceUri name => (lists_descendants root).filter _
      xccdfElements := fun origin name => ?_
      findById := fun id element => ?_
      findById_none := fun id => ?_ }
  · rw [hanswer, List.getElem?_eq_none_iff, length_preorderAll, size_eq]
    omega
  · rw [Document.xccdfElements_eq]
    simpa only [true_and] using (lists_preorder root).filter (·.is xccdf name)
  · rw [findById, ← List.head?_filter]
    exact (hids id).head?_eq_some_iff
  · rw [findById, ← List.head?_filter, List.head?_eq_none_iff]
    exact (hids id).eq_nil_iff

-- Of two elements with one id the first in the document is found, however deep it stands.
example :
    let deep : Element := ⟨"code", none, [("id", "x")], [], "deep"⟩
    let group : Element := ⟨"group", none, [], [deep], "deep"⟩
    let shallow : Element := ⟨"code", none, [("id", "x")], [], "shallow"⟩
    ((⟨"warning", none, [], [group, shallow], ""⟩ : Element).findById "x").map text =
      some "deep" := by
  cbv

end Element

end ClusterEvidence
