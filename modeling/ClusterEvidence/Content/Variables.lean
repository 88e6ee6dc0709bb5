import ClusterEvidence.Content.Document
import ClusterEvidence.Keyed

/-!
# Variables

Benchmarks declare variables, whose ids all carry one prefix that the table leaves out. A document's
table takes the values that are defaults: the direct `value` children that are neither hidden nor a
choice with a selector. Then the document's settings are applied, wherever they stand. Later values
take the place of earlier ones.

A tailoring changes values of a benchmark's table but adds none (`overwriteFrom`).
-/

namespace ClusterEvidence

/-- Variable values by id. -/
structure VariableTable where
  values : Keyed String

namespace VariableTable

/-- The table without variables. -/
def empty : VariableTable := ⟨.empty⟩

/-- The value of a variable. -/
def get? (table : VariableTable) (id : String) : Option String := table.values.get? id

/-- The table with a variable set. -/
def insert (table : VariableTable) (id value : String) : VariableTable :=
  ⟨table.values.insert id value⟩

/-- The number of variables. -/
def size (table : VariableTable) : Nat := table.values.size

/-! ## Collecting -/

/-- How the id of every variable begins in content. -/
def idStart : List Char := "xccdf_org.ssgproject.content_value_".toList

/-- The id of a variable without its prefix. -/
def stripId? (id : String) : Option String :=
  (idStart.isPrefixOf? id.toList).map String.ofList

/-- Whether a `value` element is a default of its variable. -/
def isDefault (value : Element) : Bool :=
  value.attribute? "hidden" != some "true" && value.attributeD "selector" == ""

/-- The defaults of a variable, in document order. -/
def defaults (declaration : Element) : List (String × String) :=
  match stripId? (declaration.attributeD "id") with
  | none => []
  | some id =>
      let values := declaration.children.filter fun child =>
        child.is Element.xccdf "value" && isDefault child
      values.map fun value => (id, value.text)

/-- The variable that a setting names and the value it gives. -/
def setting? (element : Element) : Option (String × String) :=
  (stripId? (element.attributeD "idref")).map fun id => (id, element.text)

/-- The values that a document gives, each of which takes the place of those before it. -/
def assignments (document : Document) : List (String × String) :=
  (document.xccdfElements "Value").flatMap defaults ++
    (document.xccdfElements "set-value").filterMap setting?

/-- The table of documents, the later over the earlier. -/
def collect (documents : List Document) : VariableTable :=
  ⟨.ofList (documents.flatMap assignments)⟩

/-! ### One value after another

A table can be filled in passes over the elements of a document, each of which takes one value at a
time into the table. -/

/-- Takes a child of the declaration of a variable into a table. -/
def takeChild (id : String) (table : VariableTable) (child : Element) : VariableTable :=
  if child.is Element.xccdf "value" && isDefault child then table.insert id child.text else table

/-- Takes the defaults of a declaration. -/
def takeDeclaration (table : VariableTable) (declaration : Element) : VariableTable :=
  match stripId? (declaration.attributeD "id") with
  | none => table
  | some id => declaration.children.foldl (takeChild id) table

/-- Takes the value of a setting. -/
def takeSetting (table : VariableTable) (element : Element) : VariableTable :=
  match stripId? (element.attributeD "idref") with
  | none => table
  | some id => table.insert id element.text

/-- Takes what a document declares, and then what it sets. -/
def takeDocument (table : VariableTable) (document : Document) : VariableTable :=
  let declared := (document.xccdfElements "Value").foldl takeDeclaration table
  (document.xccdfElements "set-value").foldl takeSetting declared

/-! ## Overwriting -/

/-- The table with the values of another for the variables that both have. -/
def overwriteFrom (table overrides : VariableTable) : VariableTable :=
  ⟨table.values.mapValues fun id value => (overrides.get? id).getD value⟩

/-- How many variables of the table another one has too. -/
def overlap (table overrides : VariableTable) : Nat :=
  overrides.values.entries.countP fun entry => (table.get? entry.1).isSome

/-- Overwrites the value of one variable, if the table has it, and counts that. -/
def overwriteOne (state : VariableTable × Nat) (entry : String × String) : VariableTable × Nat :=
  if (state.1.get? entry.1).isSome then (state.1.insert entry.1 entry.2, state.2 + 1) else state

/-- The table as a JSON object. -/
def toJson (table : VariableTable) : Json :=
  .object (table.values.entries.map fun entry => (entry.1, .string entry.2))

end VariableTable

end ClusterEvidence
