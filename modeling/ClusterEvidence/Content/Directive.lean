import ClusterEvidence.Content.Variables
import ClusterEvidence.Resource
import ClusterEvidence.Text.Blank
import ClusterEvidence.Text.Slice
import ClusterEvidence.Traverse

/-!
# Path directives

A rule names the resources that it needs in one of its warnings. Elements `code` of the class
`ocp-api-endpoint` hold URIs. When the element has an id and the warning holds an element with the
id `filter-<id>` and one with the id `dump-<id>`, these give the resource's filter and dump path;
one of them alone has no effect. The texts may refer to variables as `${name}`.

A warning whose texts refer to an unknown variable gives nothing at all. The first warning that
gives any resource gives all resources of its rule.
-/

namespace ClusterEvidence.Directive

/-! ## Variable references -/

/-- A reference to a variable that the table does not have. -/
structure UnknownVariable where
  name : String
  deriving DecidableEq, Repr

/-- The wording of the error. -/
def UnknownVariable.message (error : UnknownVariable) : String :=
  "unknown variable '" ++ error.name ++ "' referenced in path directive"

/-- A character of a variable's name in a reference. -/
def isNameChar (c : Char) : Bool := c.isAlphanum || c == '_' || c == '.' || c == '-'

/-- The name in a reference that stands in front of a text, and what follows the reference: `${`,
the name and `}`, with white space allowed around the name. -/
def reference? (text : List Char) : Option (List Char × List Char) :=
  match text with
  | '$' :: '{' :: body =>
      let body := Text.trimStart body
      let name := body.takeWhile isNameChar
      match Text.trimStart (body.dropWhile isNameChar) with
      | '}' :: rest => if name.isEmpty then none else some (name, rest)
      | _ => none
  | _ => none

/-- A part of a template: a character that stands for itself, or a reference. -/
inductive Part where
  | character (c : Char)
  | reference (name : List Char)
  deriving DecidableEq, Repr

private theorem length_lt_of_reference? {text name rest : List Char}
    (h : reference? text = some (name, rest)) : rest.length < text.length := by
  unfold reference? at h
  split at h
  · next body =>
      simp only at h
      split at h
      · next tail hrest =>
          split at h
          · simp at h
          · simp only [Option.some.injEq, Prod.mk.injEq] at h
            obtain ⟨_, rfl⟩ := h
            have hle (text : List Char) : (Text.trimStart text).length ≤ text.length :=
              (List.dropWhile_sublist _).length_le
            have h₁ := congrArg List.length hrest
            have h₂ := hle ((Text.trimStart body).dropWhile isNameChar)
            have h₃ := (List.dropWhile_sublist isNameChar (l := Text.trimStart body)).length_le
            have h₄ := hle body
            simp only [List.length_cons] at h₁ ⊢
            omega
      · simp at h
  · simp at h

/-- The parts of a template, read from the left; what a reference takes up is not read again. -/
def parts (template : List Char) : List Part :=
  match template with
  | [] => []
  | c :: text =>
      match _hreference : reference? (c :: text) with
      | some (name, rest) => .reference name :: parts rest
      | none => .character c :: parts text
termination_by template.length
decreasing_by
  · exact length_lt_of_reference? _hreference
  · simp

/-- What a part of a template is replaced by. -/
def Part.render (values : VariableTable) : Part → Except UnknownVariable (List Char)
  | .character c => .ok [c]
  | .reference name =>
      match values.get? (String.ofList name) with
      | some value => .ok value.toList
      | none => .error ⟨String.ofList name⟩

/-- The template with the values of the variables that it refers to. -/
def render (values : VariableTable) (template : String) : Except UnknownVariable String :=
  (gather (Part.render values) (parts template.toList)).map String.ofList

/-! ### From one reference to the next

A template can be rendered by going from one reference to the next and copying the slice between
them. A slice between places that are none of the template's would end the program. -/

/-- A reference found in a template: the places where it begins and ends, and its name. -/
structure Found where
  start : Nat
  stop : Nat
  name : List Char
  deriving DecidableEq, Repr

/-- The references in a text that stands at a place of a template, from the left; what one takes up
is not searched for others. -/
def references (place : Nat) (text : List Char) : List Found :=
  match text with
  | [] => []
  | c :: text =>
      match _hreference : reference? (c :: text) with
      | some (name, rest) =>
          let stop := place + (Text.byteLength (c :: text) - Text.byteLength rest)
          ⟨place, stop, name⟩ :: references stop rest
      | none => references (place + c.utf8Size) text
termination_by text.length
decreasing_by
  · exact length_lt_of_reference? _hreference
  · simp

/-- Renders what stands behind a place of a template, which is the end of the last reference, after
what was rendered before. None when a slice is none of the template's. -/
def renderFrom (values : VariableTable) (template : List Char) (last : Nat) (out : List Char) :
    List Found → Option (Except UnknownVariable (List Char))
  | [] => (Text.sliceFrom? template last).map fun tail => .ok (out ++ tail)
  | found :: others =>
      match values.get? (String.ofList found.name) with
      | none => some (.error ⟨String.ofList found.name⟩)
      | some value =>
          (Text.slice? template last found.start).bind fun plain =>
            renderFrom values template found.stop (out ++ plain ++ value.toList) others

/-- The template rendered from one reference to the next. -/
def renderSlices (values : VariableTable) (template : String) :
    Option (Except UnknownVariable String) :=
  (renderFrom values template.toList 0 [] (references 0 template.toList)).map fun result =>
    result.map String.ofList

/-! ## The resources of a warning -/

/-- The class of the elements that hold URIs. -/
def endpointClass : List Char := "ocp-api-endpoint".toList

/-- Whether an element holds a URI. -/
def isEndpoint (element : Element) : Bool :=
  element.name == "code" && (Text.words (element.attributeD "class").toList).contains endpointClass

/-- The template in an element, without the white space around it. -/
def template (element : Element) : String := Text.trimString element.text

/-- The filter and the dump path that a warning gives for an id. -/
def companions? (warning : Element) (id : String) : Option (Element × Element) :=
  match warning.findById ("filter-" ++ id), warning.findById ("dump-" ++ id) with
  | some filter, some dump => some (filter, dump)
  | _, _ => none

/-- The companions of an endpoint, if it has an id. -/
def companionsOf? (warning endpoint : Element) : Option (Element × Element) :=
  match endpoint.attribute? "id" with
  | some id => if id = "" then none else companions? warning id
  | none => none

/-- The resource of an endpoint; none when its URI is empty. -/
def resourceOf (values : VariableTable) (warning endpoint : Element) :
    Except UnknownVariable (List Resource) := do
  let uri ← render values (template endpoint)
  if uri = "" then .ok []
  else
    match companionsOf? warning endpoint with
    | none => .ok [.plain uri]
    | some (filter, dump) => do
        let filter ← render values (template filter)
        let dumpPath ← render values (template dump)
        .ok [⟨uri, dumpPath, filter⟩]

/-- The resources of a warning, in document order. -/
def resourcesOfWarning (values : VariableTable) (warning : Element) :
    Except UnknownVariable (List Resource) :=
  gather (resourceOf values warning) (warning.descendants.filter isEndpoint)

/-- The resources of the first warning that gives any. -/
def firstResources (values : VariableTable) : List Element → List Resource
  | [] => []
  | warning :: others =>
      match resourcesOfWarning values warning with
      | .ok (resource :: resources) => resource :: resources
      | _ => firstResources values others

/-- The resources of a rule. -/
def resourcesOfRule (values : VariableTable) (rule : Element) : List Resource :=
  firstResources values (rule.findAll Element.xccdf "warning")

end ClusterEvidence.Directive
