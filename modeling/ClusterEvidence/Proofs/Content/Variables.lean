import ClusterEvidence.Proofs.Content.Resolution
import ClusterEvidence.Proofs.Traverse
import Mathlib.Data.List.Basic

/-!
# Which value a variable has

A table is filled in passes over the elements of a document, and what is taken later replaces what
was taken before. A look-up therefore finds the last entry of a variable, and the last entry is the
last setting in document order, or else the last default of all declarations (`get?_collect`).

Overwriting goes through the other table one entry at a time. Each entry changes the value of a
variable that is there or nothing at all, so that no variable is added on the way
(`get?_overwriteOne`). Whether a template can be rendered depends on which variables there are only.

## Main results

* `VariableTable.get?_collect` — the value that a document gives a variable.
* `VariableTable.collect_eq_foldl`, `VariableTable.foldl_overwriteOne` — filling and overwriting a
  table one value after another.
* `Directive.render_eq_error_iff` — tables with the same variables fail for the same templates.
* `Resolution.variablesOf_tailorsValues` — a tailoring changes values only.
-/

namespace ClusterEvidence

namespace VariableTable

variable {id : String}

/-! ## Ids in content -/

/-- The id of a variable as content writes it. -/
def prefixed (id : String) : String := String.ofList idStart ++ id

private theorem stripId?_eq_some_iff {text : String} :
    stripId? text = some id ↔ text = prefixed id := by
  rw [stripId?, Option.map_eq_some_iff]
  constructor
  · rintro ⟨rest, hrest, rfl⟩
    have htext := List.isPrefixOf?_eq_some_iff_append_eq.1 hrest
    rw [prefixed, ← String.ofList_append, htext, String.ofList_toList]
  · rintro rfl
    refine ⟨id.toList, ?_, String.ofList_toList⟩
    apply List.isPrefixOf?_eq_some_iff_append_eq.2
    rw [prefixed, String.toList_append, String.toList_ofList]

private theorem prefixed_ne_empty (id : String) : prefixed id ≠ "" := by
  intro h
  have hempty := congrArg String.toList h
  rw [prefixed, String.toList_append, String.toList_ofList] at hempty
  cases (List.append_eq_nil_iff.1 hempty).1

/-! ## What a document gives -/

/-- Whether an element is a default of the variable that it is a child of: a value that is not
hidden and that has no selector or an empty one. -/
def IsDefaultValue (child : Element) : Prop :=
  child.is Element.xccdf "value" = true ∧ child.attribute? "hidden" ≠ some "true" ∧
    (child.attribute? "selector" = none ∨ child.attribute? "selector" = some "")

instance (child : Element) : Decidable (IsDefaultValue child) := by
  unfold IsDefaultValue
  infer_instance

/-- The declarations of a variable, in document order. -/
def declarationsOf (document : Document) (id : String) : List Element :=
  document.root.preorder.filter fun element =>
    element.is Element.xccdf "Value" && element.attribute? "id" == some (prefixed id)

/-- The settings of a variable, in document order. -/
def settingsOf (document : Document) (id : String) : List Element :=
  document.root.preorder.filter fun element =>
    element.is Element.xccdf "set-value" && element.attribute? "idref" == some (prefixed id)

/-- The default of a variable: the last one of all its declarations. -/
def default? (document : Document) (id : String) : Option String :=
  ((declarationsOf document id).flatMap fun declaration =>
    declaration.children.filter fun child => IsDefaultValue child).getLast?.map Element.text

/-- What a variable is set to: the last of its settings. -/
def set? (document : Document) (id : String) : Option String :=
  (settingsOf document id).getLast?.map Element.text

/-! ## One document -/

/-- The attribute of an element names a variable only if it is there. -/
private theorem stripId?_attributeD_iff {element : Element} {name : String} :
    stripId? (element.attributeD name) = some id ↔
      element.attribute? name = some (prefixed id) := by
  rw [stripId?_eq_some_iff, Element.attributeD]
  cases element.attribute? name with
  | none => simp [Ne.symm (prefixed_ne_empty id)]
  | some value => simp

private theorem isDefault_iff {child : Element} :
    (child.is Element.xccdf "value" && isDefault child) = true ↔ IsDefaultValue child := by
  have hselector : child.attributeD "selector" = "" ↔
      child.attribute? "selector" = none ∨ child.attribute? "selector" = some "" := by
    rw [Element.attributeD]
    cases child.attribute? "selector" <;> simp
  simp only [isDefault, IsDefaultValue, Bool.and_eq_true, bne_iff_ne, beq_iff_eq, hselector]

/-- The settings of elements that name one variable. -/
private theorem filter_settings (elements : List Element) :
    ((elements.filterMap setting?).filter fun entry => entry.1 = id) =
      (elements.filter fun element => element.attribute? "idref" == some (prefixed id)).map
        fun element => (id, element.text) := by
  induction elements with
  | nil => rfl
  | cons element elements ih =>
      by_cases hid : element.attribute? "idref" = some (prefixed id)
      · have hsetting : setting? element = some (id, element.text) := by
          rw [setting?, stripId?_attributeD_iff.2 hid]
          rfl
        rw [List.filterMap_cons_some hsetting, List.filter_cons_of_pos (by simp), ih,
          List.filter_cons_of_pos (by simpa using hid), List.map_cons]
      · rw [List.filter_cons_of_neg (by simpa using hid), ← ih]
        cases hsetting : setting? element with
        | none => rw [List.filterMap_cons_none hsetting]
        | some entry =>
            have hother : entry.1 ≠ id := by
              rintro rfl
              obtain ⟨found, hfound, rfl⟩ := Option.map_eq_some_iff.1 hsetting
              exact hid (stripId?_attributeD_iff.1 hfound)
            rw [List.filterMap_cons_some hsetting, List.filter_cons_of_neg (by simpa using hother)]

/-- The defaults in declarations of one variable. -/
private theorem filter_defaults (elements : List Element) :
    ((elements.flatMap defaults).filter fun entry => entry.1 = id) =
      ((elements.filter fun element => element.attribute? "id" == some (prefixed id)).flatMap
        fun declaration => declaration.children.filter fun child => IsDefaultValue child).map
          fun child => (id, child.text) := by
  have hchildren (declaration : Element) :
      (declaration.children.filter fun child =>
        child.is Element.xccdf "value" && isDefault child) =
          declaration.children.filter fun child => IsDefaultValue child := by
    apply List.filter_congr
    intro child _
    rw [Bool.eq_iff_iff, decide_eq_true_iff]
    exact isDefault_iff
  induction elements with
  | nil => rfl
  | cons element elements ih =>
      rw [List.flatMap_cons, List.filter_append, ih]
      by_cases hid : element.attribute? "id" = some (prefixed id)
      · have hdefaults : defaults element =
            (element.children.filter fun child => IsDefaultValue child).map
              fun child => (id, child.text) := by
          rw [defaults, stripId?_attributeD_iff.2 hid]
          dsimp only
          rw [hchildren]
        have hall : (defaults element).filter (fun entry => entry.1 = id) = defaults element := by
          rw [hdefaults]
          apply List.filter_eq_self.2
          intro entry hentry
          obtain ⟨child, _, rfl⟩ := List.mem_map.1 hentry
          simp
        rw [hall, hdefaults, List.filter_cons_of_pos (by simpa using hid), List.flatMap_cons,
          List.map_append]
      · have hnone : (defaults element).filter (fun entry => entry.1 = id) = [] := by
          apply List.filter_eq_nil_iff.2
          intro entry hentry
          unfold defaults at hentry
          split at hentry
          · cases hentry
          · next other hother =>
              obtain ⟨child, _, rfl⟩ := List.mem_map.1 hentry
              have hne : other ≠ id := by
                rintro rfl
                exact hid (stripId?_attributeD_iff.1 hother)
              simpa using hne
        rw [hnone, List.nil_append, List.filter_cons_of_neg (by simpa using hid)]

/-- The table of a document: what a variable is set to, or else its default. -/
theorem get?_collect (document : Document) (id : String) :
    (collect [document]).get? id = (set? document id).or (default? document id) := by
  have hentries : ((assignments document).filter fun entry => entry.1 = id) =
      (((declarationsOf document id).flatMap fun declaration =>
        declaration.children.filter fun child => IsDefaultValue child).map
          fun child => (id, child.text)) ++
        (settingsOf document id).map fun element => (id, element.text) := by
    rw [assignments, List.filter_append, filter_defaults, filter_settings,
      Document.xccdfElements_eq, Document.xccdfElements_eq, List.filter_filter, List.filter_filter,
      declarationsOf, settingsOf]
    simp only [Bool.and_comm]
  show (Keyed.ofList ([document].flatMap assignments)).get? id = _
  rw [List.flatMap_singleton, Keyed.get?_ofList, hentries, List.getLast?_append, List.getLast?_map,
    List.getLast?_map, set?, default?]
  cases (settingsOf document id).getLast? <;>
    cases ((declarationsOf document id).flatMap _).getLast? <;> rfl

/-! ## One value after another -/

/-- The table with entries stored one after another. -/
def store (table : VariableTable) (entries : List (String × String)) : VariableTable :=
  ⟨table.values.insertMany entries⟩

private theorem store_append (table : VariableTable) (first second : List (String × String)) :
    table.store (first ++ second) = (table.store first).store second :=
  congrArg mk (Keyed.insertMany_append table.values first second)

private theorem foldl_takeChild (table : VariableTable) (children : List Element) :
    children.foldl (takeChild id) table =
      table.store ((children.filter fun child =>
        child.is Element.xccdf "value" && isDefault child).map fun child => (id, child.text)) := by
  induction children generalizing table with
  | nil => rfl
  | cons child children ih =>
      rw [List.foldl_cons, ih, takeChild]
      split
      · next htakes =>
          rw [List.filter_cons, if_pos htakes]
          rfl
      · next hleaves => rw [List.filter_cons, if_neg hleaves]

private theorem takeDeclaration_eq (table : VariableTable) (declaration : Element) :
    takeDeclaration table declaration = table.store (defaults declaration) := by
  unfold takeDeclaration defaults
  split
  · rfl
  · exact foldl_takeChild table declaration.children

private theorem takeSetting_eq (table : VariableTable) (element : Element) :
    takeSetting table element = table.store (setting? element).toList := by
  unfold takeSetting setting?
  cases stripId? (element.attributeD "idref") <;> rfl

private theorem takeDocument_eq (table : VariableTable) (document : Document) :
    takeDocument table document = table.store (assignments document) := by
  have hdeclared (elements : List Element) (table : VariableTable) :
      elements.foldl takeDeclaration table = table.store (elements.flatMap defaults) := by
    induction elements generalizing table with
    | nil => rfl
    | cons element elements ih =>
        rw [List.foldl_cons, ih, takeDeclaration_eq, List.flatMap_cons, store_append]
  have hset (elements : List Element) (table : VariableTable) :
      elements.foldl takeSetting table = table.store (elements.filterMap setting?) := by
    induction elements generalizing table with
    | nil => rfl
    | cons element elements ih =>
        rw [List.foldl_cons, ih, takeSetting_eq, ← store_append, List.filterMap_cons]
        cases setting? element <;> rfl
  rw [takeDocument, hset, hdeclared, ← store_append, assignments]

/-- The table of documents is filled one value after another. -/
theorem collect_eq_foldl (documents : List Document) :
    collect documents = documents.foldl takeDocument empty := by
  have hfilled (table : VariableTable) :
      documents.foldl takeDocument table = table.store (documents.flatMap assignments) := by
    induction documents generalizing table with
    | nil => rfl
    | cons document documents ih =>
        rw [List.foldl_cons, ih, takeDocument_eq, List.flatMap_cons, store_append]
  rw [hfilled]
  exact congrArg mk (Keyed.ofList_eq_insertMany _)

/-! ## Overwriting one value after another -/

/-- A table is its look-ups. -/
private theorem ext_get? {a b : VariableTable} (h : ∀ id, a.get? id = b.get? id) : a = b :=
  congrArg mk (Keyed.ext_get? h)

private theorem get?_insert (table : VariableTable) (id other value : String) :
    (table.insert id value).get? other = if id = other then some value else table.get? other :=
  Keyed.get?_insert table.values id other value

/-- One entry changes the value of its variable, if the table has that. -/
theorem get?_overwriteOne (state : VariableTable × Nat) (entry : String × String) (id : String) :
    (overwriteOne state entry).1.get? id =
      (state.1.get? id).map fun value => if entry.1 = id then entry.2 else value := by
  unfold overwriteOne
  split
  · next hhas =>
      rw [get?_insert]
      by_cases hid : entry.1 = id
      · obtain ⟨value, hvalue⟩ := Option.isSome_iff_exists.1 hhas
        rw [if_pos hid, ← hid, hvalue]
        simp
      · simp [hid]
  · next hnot =>
      by_cases hid : entry.1 = id
      · have hnone : state.1.get? id = none := by
          rw [← hid]
          simpa using hnot
        rw [hnone]
        rfl
      · simp [hid]

private theorem isSome_get?_overwriteOne (state : VariableTable × Nat) (entry : String × String)
    (id : String) : ((overwriteOne state entry).1.get? id).isSome = (state.1.get? id).isSome := by
  rw [get?_overwriteOne, Option.isSome_map]

private theorem count_overwriteOne (state : VariableTable × Nat) (entry : String × String) :
    (overwriteOne state entry).2 =
      state.2 + if (state.1.get? entry.1).isSome then 1 else 0 := by
  unfold overwriteOne
  split <;> rfl

/-- After some entries, variables have the last value that these give them, and no variable was
added. -/
private theorem get?_foldl_overwriteOne (entries : List (String × String))
    (state : VariableTable × Nat) (id : String) :
    (entries.foldl overwriteOne state).1.get? id =
      (state.1.get? id).map fun value => (Entries.get? id entries.reverse).getD value := by
  induction entries generalizing state with
  | nil => simp
  | cons entry entries ih =>
      rw [List.foldl_cons, ih, get?_overwriteOne, Option.map_map, List.reverse_cons,
        Entries.get?_append]
      have hone : Entries.get? id [entry] = if entry.1 = id then some entry.2 else none := rfl
      congr 1
      funext value
      cases Entries.get? id entries.reverse <;> by_cases hid : entry.1 = id <;> simp [hone, hid]

/-- The entries that are counted are those of variables that the table had at the start. -/
private theorem count_foldl_overwriteOne (entries : List (String × String))
    (state : VariableTable × Nat) :
    (entries.foldl overwriteOne state).2 =
      state.2 + entries.countP fun entry => (state.1.get? entry.1).isSome := by
  induction entries generalizing state with
  | nil => rfl
  | cons entry entries ih =>
      rw [List.foldl_cons, ih, count_overwriteOne, List.countP_cons]
      simp only [isSome_get?_overwriteOne]
      omega

/-- Overwriting one value after another gives the overwritten table, and the number of variables
that both tables have. -/
theorem foldl_overwriteOne (table overrides : VariableTable) :
    overrides.values.entries.foldl overwriteOne (table, 0) =
      (table.overwriteFrom overrides, table.overlap overrides) := by
  apply Prod.ext
  · apply ext_get?
    intro id
    have hmerged : (table.overwriteFrom overrides).get? id =
        (table.get? id).map fun value => (overrides.get? id).getD value :=
      Keyed.get?_mapValues _ _ _
    rw [get?_foldl_overwriteOne, overrides.values.sorted.get?_reverse, hmerged]
    rfl
  · rw [count_foldl_overwriteOne, Nat.zero_add]
    rfl

end VariableTable

/-! ## References to variables -/

namespace Directive

open VariableTable (collect)

/-- Tables that have the same variables, whatever their values. -/
def SameIds (a b : VariableTable) : Prop := ∀ id, (a.get? id).isSome = (b.get? id).isSome

variable {a b : VariableTable}

/-- A part of a template fails under both tables, for the same variable, or under none. -/
private theorem corresponds_part (h : SameIds a b) (part : Part) :
    Corresponds (fun _ _ => True) Eq (part.render a) (part.render b) := by
  cases part with
  | character c => exact .ok trivial
  | reference name =>
      have hsame := h (String.ofList name)
      unfold Part.render
      dsimp only
      cases ha : a.get? (String.ofList name) with
      | none =>
          cases hb : b.get? (String.ofList name) with
          | none => exact .error rfl
          | some value => simp [ha, hb] at hsame
      | some value =>
          cases hb : b.get? (String.ofList name) with
          | none => simp [ha, hb] at hsame
          | some other => exact .ok trivial

/-- A template fails under both tables, for the same variable, or under none. -/
theorem render_eq_error_iff (h : SameIds a b) (template : String) (e : UnknownVariable) :
    render a template = .error e ↔ render b template = .error e := by
  have hparts : Corresponds (fun _ _ => True) Eq
      (gather (Part.render a) (parts template.toList))
      (gather (Part.render b) (parts template.toList)) :=
    Corresponds.gather fun part _ => corresponds_part h part
  have hrender : Corresponds (fun _ _ => True) Eq (render a template) (render b template) :=
    hparts.map fun _ _ _ => trivial
  exact hrender.eq_error_iff e

end Directive

namespace Resolution

open VariableTable (collect)

/-! ## A tailoring changes values only -/

variable {benchmark : Document} {tailoring : Option Document}

private theorem sameIds_variablesOf (benchmark : Document) (tailoring : Option Document) :
    Directive.SameIds (variablesOf benchmark tailoring) (collect [benchmark]) := by
  intro id
  rw [get?_variablesOf, Option.isSome_map]

/-- How the variables of a benchmark and a tailoring are put together. -/
structure TailorsValues (benchmark : Document) (tailoring : Option Document) : Prop where
  ids : (variablesOf benchmark tailoring).values.keys = (collect [benchmark]).values.keys
  tailored : ∀ document id value, tailoring = some document →
    ((collect [benchmark]).get? id).isSome → (collect [document]).get? id = some value →
    (variablesOf benchmark tailoring).get? id = some value
  kept : ∀ id, (∀ document, tailoring = some document → (collect [document]).get? id = none) →
    (variablesOf benchmark tailoring).get? id = (collect [benchmark]).get? id
  /-- What one document gives, be it a benchmark or a tailoring. -/
  collected : ∀ document id, (collect [document]).get? id =
    (VariableTable.set? document id).or (VariableTable.default? document id)
  fails_iff : ∀ template e,
    Directive.render (variablesOf benchmark tailoring) template = .error e ↔
      Directive.render (collect [benchmark]) template = .error e

/-- A tailoring changes values of variables that a benchmark has, but adds and takes away none, so
that a template fails with it as it does without. -/
theorem variablesOf_tailorsValues (benchmark : Document) (tailoring : Option Document) :
    TailorsValues benchmark tailoring where
  ids := by
    cases tailoring with
    | none => rfl
    | some document =>
        show List.map Prod.fst (List.map _ _) = List.map Prod.fst _
        rw [List.map_map]
        rfl
  tailored document id value htailoring hhas hvalue := by
    obtain ⟨old, hold⟩ := Option.isSome_iff_exists.1 hhas
    rw [get?_variablesOf, hold, htailoring, Option.bind_some, hvalue]
    rfl
  kept id hnone := by
    rw [get?_variablesOf]
    cases tailoring with
    | none => simp
    | some document => simp [hnone document rfl]
  collected document id := VariableTable.get?_collect document id
  fails_iff template e :=
    Directive.render_eq_error_iff (sameIds_variablesOf benchmark tailoring) template e

end Resolution

end ClusterEvidence
