import ClusterEvidence.Proofs.Content.Element
import ClusterEvidence.Proofs.Content.Rendering
import Mathlib.Data.List.Forall2

/-!
# What the warnings of a rule give

An endpoint is read on its own: its URI first, and then its companions if it has both. Which of the
elements of a warning are rendered for it (`IsReadFor`) therefore depends on its URI and on its
pairing alone, and so does what it gives (`Gives`) or how it fails (`Fails`).

A warning is one pass over its endpoints. It fails with the first that fails, whatever was given
before, or gives what all of them give. A rule takes the first of its warnings that gives anything.

## Main results

* `resourceOf_eq_ok_iff`, `resourceOf_eq_error_iff` — one endpoint.
* `resourcesOfWarning_allOrNothing` — one warning.
* `resourcesOfRule_firstWins` — all warnings of a rule.
-/

namespace ClusterEvidence.Directive

open Element (preorderAll)
open Text (Blank Begins Closes)

variable {values : VariableTable} {warning endpoint element : Element}

/-! ## Elements by their order -/

/-- An element `code` of the class of endpoints, which may be of other classes too. -/
def IsEndpoint (element : Element) : Prop :=
  element.name = "code" ∧
    "ocp-api-endpoint".toList ∈ Text.words (element.attributeD "class").toList

instance (element : Element) : Decidable (IsEndpoint element) := by
  unfold IsEndpoint
  infer_instance

/-- The endpoints in a warning, in document order. -/
def endpointsOf (warning : Element) : List Element :=
  (preorderAll warning.children).filter fun element => IsEndpoint element

private theorem isEndpoint_iff : isEndpoint element = true ↔ IsEndpoint element := by
  have hclass : endpointClass = "ocp-api-endpoint".toList := rfl
  rw [isEndpoint, Bool.and_eq_true, beq_iff_eq, List.contains_iff_mem, hclass, IsEndpoint]

/-- The warnings below a rule, in document order. -/
def warningsOf (rule : Element) : List Element :=
  (preorderAll rule.children).filter (·.is Element.xccdf "warning")

/-- Of the elements below another one, the first in document order that has an id. -/
def IsFirstWithId (element : Element) (id : String) (found : Element) : Prop :=
  ∃ before after, preorderAll element.children = before ++ found :: after ∧
    found.attribute? "id" = some id ∧ ∀ other ∈ before, other.attribute? "id" ≠ some id

private theorem findById_eq_some_iff {id : String} {found : Element} :
    element.findById id = some found ↔ IsFirstWithId element id found := by
  rw [Element.findById, Element.descendants_eq, List.find?_eq_some_iff_append]
  constructor
  · rintro ⟨hfound, before, after, hall, hbefore⟩
    exact ⟨before, after, hall, by simpa using hfound, fun other hother => by
      simpa using hbefore other hother⟩
  · rintro ⟨before, after, hall, hfound, hbefore⟩
    exact ⟨by simpa using hfound, before, after, hall, fun other hother => by
      simpa using hbefore other hother⟩

/-- The companions of an endpoint: it has an id, and the warning has a filter and a dump path for
it. -/
def Paired (warning endpoint filter dump : Element) : Prop :=
  ∃ id, endpoint.attribute? "id" = some id ∧ id ≠ "" ∧
    IsFirstWithId warning ("filter-" ++ id) filter ∧ IsFirstWithId warning ("dump-" ++ id) dump

private theorem companions?_eq_some_iff {id : String} {filter dump : Element} :
    companions? warning id = some (filter, dump) ↔
      IsFirstWithId warning ("filter-" ++ id) filter ∧
        IsFirstWithId warning ("dump-" ++ id) dump := by
  rw [companions?, ← findById_eq_some_iff, ← findById_eq_some_iff]
  cases warning.findById ("filter-" ++ id) <;> cases warning.findById ("dump-" ++ id) <;> simp

private theorem companionsOf?_eq_some_iff {filter dump : Element} :
    companionsOf? warning endpoint = some (filter, dump) ↔ Paired warning endpoint filter dump := by
  rw [companionsOf?, Paired]
  cases endpoint.attribute? "id" with
  | none => simp
  | some id =>
      by_cases hid : id = ""
      · simp [hid]
      · simp [hid, companions?_eq_some_iff]

private theorem companionsOf?_eq_none_iff :
    companionsOf? warning endpoint = none ↔
      ∀ filter dump, ¬ Paired warning endpoint filter dump := by
  simp only [← companionsOf?_eq_some_iff, Option.eq_none_iff_forall_ne_some, Prod.forall, ne_eq]

/-! ## The text of an element -/

/-- The text of an element without the white space around it. -/
def SaysText (element : Element) (text : String) : Prop :=
  ∃ front back, element.text.toList = front ++ text.toList ++ back ∧ Blank front ∧ Blank back ∧
    Begins text.toList ∧ Closes text.toList

private theorem saysText_iff {text : String} : SaysText element text ↔ template element = text := by
  constructor
  · rintro ⟨front, back, htext, hfront, hback, hbegins, hcloses⟩
    rw [template, Text.trimString, htext, Text.trim_eq hfront hback hbegins hcloses,
      String.ofList_toList]
  · rintro rfl
    obtain ⟨front, back, htext, hfront, hback, hends⟩ := Text.exists_trim element.text.toList
    refine ⟨front, back, ?_, hfront, hback, ?_⟩
    · rw [template, Text.trimString, String.toList_ofList]
      exact htext
    · rw [template, Text.trimString, String.toList_ofList]
      exact hends

/-- What rendering the text of an element comes to. -/
def Renders (values : VariableTable) (element : Element)
    (result : Except UnknownVariable String) : Prop :=
  ∃ text, SaysText element text ∧ render values text = result

theorem renders_iff {result : Except UnknownVariable String} :
    Renders values element result ↔ render values (template element) = result := by
  simp only [Renders, saysText_iff, exists_eq_left']

/-! ## One endpoint -/

/-- What an endpoint of a warning gives. -/
inductive Gives (values : VariableTable) (warning endpoint : Element) : List Resource → Prop where
  | nothing (huri : Renders values endpoint (.ok "")) : Gives values warning endpoint []
  | paired {uri filterText dumpPath filter dump}
      (huri : Renders values endpoint (.ok uri)) (hne : uri ≠ "")
      (hpair : Paired warning endpoint filter dump)
      (hfilter : Renders values filter (.ok filterText))
      (hdump : Renders values dump (.ok dumpPath)) :
      Gives values warning endpoint [⟨uri, dumpPath, filterText⟩]
  /-- Without both companions the URI is the dump path too, and there is no filter. -/
  | alone {uri} (huri : Renders values endpoint (.ok uri)) (hne : uri ≠ "")
      (hnone : ∀ filter dump, ¬ Paired warning endpoint filter dump) :
      Gives values warning endpoint [⟨uri, uri, ""⟩]

/-- How an endpoint of a warning fails: its URI comes first, and the filter before the dump path. -/
inductive Fails (values : VariableTable) (warning endpoint : Element) : UnknownVariable → Prop where
  | uri {e} (huri : Renders values endpoint (.error e)) : Fails values warning endpoint e
  | filter {uri filter dump e}
      (huri : Renders values endpoint (.ok uri)) (hne : uri ≠ "")
      (hpair : Paired warning endpoint filter dump)
      (hfilter : Renders values filter (.error e)) : Fails values warning endpoint e
  | dump {uri filterText filter dump e}
      (huri : Renders values endpoint (.ok uri)) (hne : uri ≠ "")
      (hpair : Paired warning endpoint filter dump)
      (hfilter : Renders values filter (.ok filterText))
      (hdump : Renders values dump (.error e)) : Fails values warning endpoint e

/-- An endpoint without a URI. -/
private theorem resourceOf_empty (huri : Renders values endpoint (.ok "")) :
    resourceOf values warning endpoint = .ok [] := by
  rw [resourceOf, renders_iff.1 huri]
  rfl

private theorem resourceOf_alone {uri : String} (huri : Renders values endpoint (.ok uri))
    (hne : uri ≠ "") (hnone : ∀ filter dump, ¬ Paired warning endpoint filter dump) :
    resourceOf values warning endpoint = .ok [⟨uri, uri, ""⟩] := by
  rw [resourceOf, renders_iff.1 huri, companionsOf?_eq_none_iff.2 hnone]
  simp [bind, Except.bind, hne, Resource.plain]

private theorem resourceOf_paired {uri : String} {filter dump : Element}
    (huri : Renders values endpoint (.ok uri)) (hne : uri ≠ "")
    (hpair : Paired warning endpoint filter dump) :
    resourceOf values warning endpoint = (do
      let filterText ← render values (template filter)
      let dumpPath ← render values (template dump)
      .ok [⟨uri, dumpPath, filterText⟩]) := by
  rw [resourceOf, renders_iff.1 huri, companionsOf?_eq_some_iff.2 hpair]
  simp [bind, Except.bind, hne]

private theorem resourceOf_of_gives {resources : List Resource}
    (h : Gives values warning endpoint resources) :
    resourceOf values warning endpoint = .ok resources := by
  cases h with
  | nothing huri => exact resourceOf_empty huri
  | paired huri hne hpair hfilter hdump =>
      rw [resourceOf_paired huri hne hpair, renders_iff.1 hfilter, renders_iff.1 hdump]
      rfl
  | alone huri hne hnone => exact resourceOf_alone huri hne hnone

private theorem resourceOf_of_fails {e : UnknownVariable} (h : Fails values warning endpoint e) :
    resourceOf values warning endpoint = .error e := by
  cases h with
  | uri huri =>
      rw [resourceOf, renders_iff.1 huri]
      rfl
  | filter huri hne hpair hfilter =>
      rw [resourceOf_paired huri hne hpair, renders_iff.1 hfilter]
      rfl
  | dump huri hne hpair hfilter hdump =>
      rw [resourceOf_paired huri hne hpair, renders_iff.1 hfilter, renders_iff.1 hdump]
      rfl

/-- The text of every element can be rendered or not. -/
private theorem renders_or_fails (values : VariableTable) (element : Element) :
    (∃ text, Renders values element (.ok text)) ∨ ∃ e, Renders values element (.error e) := by
  simp only [renders_iff]
  cases render values (template element) with
  | ok text => exact .inl ⟨text, rfl⟩
  | error e => exact .inr ⟨e, rfl⟩

/-- Every endpoint gives something or fails. -/
private theorem gives_or_fails (values : VariableTable) (warning endpoint : Element) :
    (∃ resources, Gives values warning endpoint resources) ∨
      ∃ e, Fails values warning endpoint e := by
  rcases renders_or_fails values endpoint with ⟨uri, huri⟩ | ⟨e, huri⟩
  · by_cases hne : uri = ""
    · exact .inl ⟨[], .nothing (hne ▸ huri)⟩
    by_cases hpair : ∃ filter dump, Paired warning endpoint filter dump
    · obtain ⟨filter, dump, hpair⟩ := hpair
      rcases renders_or_fails values filter with ⟨filterText, hfilter⟩ | ⟨e, hfilter⟩
      · rcases renders_or_fails values dump with ⟨dumpPath, hdump⟩ | ⟨e, hdump⟩
        · exact .inl ⟨_, .paired huri hne hpair hfilter hdump⟩
        · exact .inr ⟨e, .dump huri hne hpair hfilter hdump⟩
      · exact .inr ⟨e, .filter huri hne hpair hfilter⟩
    · exact .inl ⟨_, .alone huri hne fun filter dump h => hpair ⟨filter, dump, h⟩⟩
  · exact .inr ⟨e, .uri huri⟩

theorem resourceOf_eq_ok_iff {resources : List Resource} :
    resourceOf values warning endpoint = .ok resources ↔
      Gives values warning endpoint resources := by
  refine ⟨fun h => ?_, resourceOf_of_gives⟩
  rcases gives_or_fails values warning endpoint with ⟨given, hgiven⟩ | ⟨e, he⟩
  · rw [resourceOf_of_gives hgiven, Except.ok.injEq] at h
    exact h ▸ hgiven
  · rw [resourceOf_of_fails he] at h
    cases h

theorem resourceOf_eq_error_iff {e : UnknownVariable} :
    resourceOf values warning endpoint = .error e ↔ Fails values warning endpoint e := by
  refine ⟨fun h => ?_, resourceOf_of_fails⟩
  rcases gives_or_fails values warning endpoint with ⟨given, hgiven⟩ | ⟨found, hfound⟩
  · rw [resourceOf_of_gives hgiven] at h
    cases h
  · rw [resourceOf_of_fails hfound, Except.error.injEq] at h
    exact h ▸ hfound

/-! ### Which texts are read -/

/-- The text of an element is rendered for an endpoint: it is the endpoint, or one of its companions
when the URI is not empty. -/
def IsReadFor (values : VariableTable) (warning endpoint element : Element) : Prop :=
  element = endpoint ∨ ∃ uri filter dump, Renders values endpoint (.ok uri) ∧ uri ≠ "" ∧
    Paired warning endpoint filter dump ∧ (element = filter ∨ element = dump)

/-- The text of an element refers to a variable that a table does not have. -/
def MissesVariable (values : VariableTable) (element : Element) : Prop :=
  ∃ text name, SaysText element text ∧ RefersTo text name ∧ values.get? name = none

private theorem exists_renders_error_iff :
    (∃ e, Renders values element (.error e)) ↔ MissesVariable values element := by
  constructor
  · rintro ⟨e, text, htext, he⟩
    obtain ⟨front, found, back, hsplit, h, hnone, _⟩ := render_eq_error_iff_firstUnknown.1 he
    exact ⟨text, e.name, htext, ⟨front, found, back, hsplit, h⟩, hnone⟩
  · rintro ⟨text, name, htext, hname, hnone⟩
    cases hrender : render values text with
    | error e => exact ⟨e, text, htext, hrender⟩
    | ok rendered =>
        have hsome := exists_render_eq_ok_iff.1 ⟨rendered, hrender⟩ name hname
        rw [hnone] at hsome
        cases hsome

/-- An endpoint fails when a text that is read for it refers to an unknown variable. -/
private theorem exists_fails_iff :
    (∃ e, Fails values warning endpoint e) ↔
      ∃ element, IsReadFor values warning endpoint element ∧ MissesVariable values element := by
  simp only [← exists_renders_error_iff]
  constructor
  · rintro ⟨e, h⟩
    cases h with
    | uri huri => exact ⟨endpoint, .inl rfl, e, huri⟩
    | filter huri hne hpair hfilter =>
        exact ⟨_, .inr ⟨_, _, _, huri, hne, hpair, .inl rfl⟩, e, hfilter⟩
    | dump huri hne hpair _ hdump =>
        exact ⟨_, .inr ⟨_, _, _, huri, hne, hpair, .inr rfl⟩, e, hdump⟩
  · rintro ⟨_, rfl | ⟨uri, filter, dump, huri, hne, hpair, rfl | rfl⟩, e, he⟩
    · exact ⟨e, .uri he⟩
    · exact ⟨e, .filter huri hne hpair he⟩
    · -- The filter is read first, and its failure would come before that of the dump path.
      rcases renders_or_fails values filter with ⟨text, hfilter⟩ | ⟨found, hfilter⟩
      · exact ⟨e, .dump huri hne hpair hfilter he⟩
      · exact ⟨found, .filter huri hne hpair hfilter⟩

/-! ## One warning -/

private theorem resourcesOfWarning_eq (values : VariableTable) (warning : Element) :
    resourcesOfWarning values warning =
      gather (resourceOf values warning) (endpointsOf warning) := by
  have hendpoints (element : Element) : isEndpoint element = decide (IsEndpoint element) :=
    Bool.eq_iff_iff.2 (isEndpoint_iff.trans decide_eq_true_iff.symm)
  rw [resourcesOfWarning, Element.descendants_eq, endpointsOf, funext hendpoints]

/-- What a warning comes to. -/
structure AllOrNothing (values : VariableTable) (warning : Element) : Prop where
  fails_iff : (∃ e, resourcesOfWarning values warning = .error e) ↔
    ∃ endpoint ∈ endpointsOf warning, ∃ element, IsReadFor values warning endpoint element ∧
      MissesVariable values element
  /-- The failure is that of the first endpoint that fails. -/
  fails_first : ∀ e, resourcesOfWarning values warning = .error e ↔
    ∃ before endpoint after, endpointsOf warning = before ++ endpoint :: after ∧
      (∀ earlier ∈ before, ∃ resources, Gives values warning earlier resources) ∧
      Fails values warning endpoint e
  gives_iff : ∀ resources, resourcesOfWarning values warning = .ok resources ↔
    ∃ parts, List.Forall₂ (Gives values warning) (endpointsOf warning) parts ∧
      resources = parts.flatten
  /-- One companion on its own is neither used nor read. -/
  unpaired : ∀ endpoint, (∀ filter dump, ¬ Paired warning endpoint filter dump) →
    (∀ e, Fails values warning endpoint e ↔ Renders values endpoint (.error e)) ∧
      ∀ resources, Gives values warning endpoint resources ↔
        ∃ uri, Renders values endpoint (.ok uri) ∧
          resources = if uri = "" then [] else [⟨uri, uri, ""⟩]

/-- What an endpoint without both companions does depends on its own text alone. -/
private theorem fails_iff_of_unpaired (hnone : ∀ filter dump, ¬ Paired warning endpoint filter dump)
    (e : UnknownVariable) :
    Fails values warning endpoint e ↔ Renders values endpoint (.error e) := by
  refine ⟨fun h => ?_, .uri⟩
  cases h with
  | uri huri => exact huri
  | filter _ _ hpair => exact absurd hpair (hnone _ _)
  | dump _ _ hpair => exact absurd hpair (hnone _ _)

private theorem gives_iff_of_unpaired (hnone : ∀ filter dump, ¬ Paired warning endpoint filter dump)
    (resources : List Resource) :
    Gives values warning endpoint resources ↔
      ∃ uri, Renders values endpoint (.ok uri) ∧
        resources = if uri = "" then [] else [⟨uri, uri, ""⟩] := by
  constructor
  · intro h
    cases h with
    | nothing huri => exact ⟨"", huri, rfl⟩
    | paired _ _ hpair => exact absurd hpair (hnone _ _)
    | @alone uri huri hne => exact ⟨uri, huri, (if_neg hne).symm⟩
  · rintro ⟨uri, huri, rfl⟩
    by_cases hne : uri = ""
    · rw [if_pos hne]
      exact .nothing (hne ▸ huri)
    · rw [if_neg hne]
      exact .alone huri hne hnone

/-- A warning gives what all of its endpoints give, or nothing. -/
theorem resourcesOfWarning_allOrNothing (values : VariableTable) (warning : Element) :
    AllOrNothing values warning where
  fails_iff := by
    simp only [resourcesOfWarning_eq, exists_gather_eq_error_iff, resourceOf_eq_error_iff,
      exists_fails_iff]
  fails_first e := by
    simp only [resourcesOfWarning_eq, gather_eq_error_iff, resourceOf_eq_ok_iff,
      resourceOf_eq_error_iff]
  gives_iff resources := by
    simp only [resourcesOfWarning_eq, gather_eq_ok_iff, ← List.forall₂_eq_eq_eq,
      List.forall₂_map_left_iff, List.forall₂_map_right_iff, resourceOf_eq_ok_iff]
  unpaired endpoint hnone := ⟨fails_iff_of_unpaired hnone, gives_iff_of_unpaired hnone⟩

/-! ## All warnings of a rule -/

/-- A warning gives nothing: it fails, or it has no endpoint with a URI. -/
def Silent (values : VariableTable) (warning : Element) : Prop :=
  (∃ e, resourcesOfWarning values warning = .error e) ∨ resourcesOfWarning values warning = .ok []

/-- The first of some warnings that is not silent gives everything. -/
inductive Chooses (values : VariableTable) (warnings : List Element) : List Resource → Prop where
  | first {before warning after resources} (hsplit : warnings = before ++ warning :: after)
      (hbefore : ∀ earlier ∈ before, Silent values earlier)
      (hgives : resourcesOfWarning values warning = .ok resources) (hne : resources ≠ []) :
      Chooses values warnings resources
  | none (h : ∀ warning ∈ warnings, Silent values warning) : Chooses values warnings []

private theorem firstResources_of_silent {others : List Element} (h : Silent values warning) :
    firstResources values (warning :: others) = firstResources values others := by
  rcases h with ⟨e, he⟩ | hempty
  · simp [firstResources, he]
  · simp [firstResources, hempty]

private theorem firstResources_of_gives {others : List Element} {resources : List Resource}
    (h : resourcesOfWarning values warning = .ok resources) (hne : resources ≠ []) :
    firstResources values (warning :: others) = resources := by
  cases resources with
  | nil => exact absurd rfl hne
  | cons resource resources => simp [firstResources, h]

/-- One more silent warning in front changes nothing. -/
theorem Chooses.cons {others : List Element} {resources : List Resource}
    (h : Silent values warning) (hrest : Chooses values others resources) :
    Chooses values (warning :: others) resources := by
  cases hrest with
  | @first before chosen after _ hsplit hbefore hgives hne =>
      have hcons : warning :: others = (warning :: before) ++ chosen :: after :=
        congrArg (warning :: ·) hsplit
      refine .first hcons ?_ hgives hne
      intro earlier hearlier
      rcases List.mem_cons.1 hearlier with rfl | hearlier
      · exact h
      · exact hbefore earlier hearlier
  | none hall =>
      refine .none fun other hother => ?_
      rcases List.mem_cons.1 hother with rfl | hother
      · exact h
      · exact hall other hother

private theorem chooses_firstResources (values : VariableTable) (warnings : List Element) :
    Chooses values warnings (firstResources values warnings) := by
  induction warnings with
  | nil => exact .none (by simp)
  | cons warning others ih =>
      by_cases hsilent : Silent values warning
      · rw [firstResources_of_silent hsilent]
        exact ih.cons hsilent
      · cases hwarning : resourcesOfWarning values warning with
        | error e => exact absurd (.inl ⟨e, hwarning⟩) hsilent
        | ok resources =>
            have hne : resources ≠ [] := by
              rintro rfl
              exact hsilent (.inr hwarning)
            rw [firstResources_of_gives hwarning hne]
            have hnil : warning :: others = [] ++ warning :: others := rfl
            exact .first hnil (by simp) hwarning hne

/-- What the warnings of a rule come to. -/
structure FirstWins (values : VariableTable) (rule : Element) : Prop where
  warnings : ∀ warning, AllOrNothing values warning
  chooses : Chooses values (warningsOf rule) (resourcesOfRule values rule)
  /-- The list of one warning is returned as it is, and never that of one that fails. -/
  whole : resourcesOfRule values rule = [] ∨ ∃ warning ∈ warningsOf rule,
    resourcesOfWarning values warning = .ok (resourcesOfRule values rule)

/-- The first warning of a rule that neither fails nor is empty gives all of its resources. -/
theorem resourcesOfRule_firstWins (values : VariableTable) (rule : Element) :
    FirstWins values rule := by
  have hchooses : Chooses values (warningsOf rule) (resourcesOfRule values rule) := by
    rw [resourcesOfRule, Element.findAll, Element.descendants_eq]
    exact chooses_firstResources values (warningsOf rule)
  refine ⟨resourcesOfWarning_allOrNothing values, hchooses, ?_⟩
  generalize resourcesOfRule values rule = resources at hchooses ⊢
  cases hchooses with
  | @first before warning after _ hsplit _ hgives => exact .inr ⟨warning, by simp [hsplit], hgives⟩
  | none => exact .inl rfl

-- A filter without a dump path is not even read.
example :
    let endpoint : Element := ⟨"code", none, [("class", "ocp-api-endpoint"), ("id", "e")], [], "/x"⟩
    let filter : Element := ⟨"code", none, [("id", "filter-e")], [], "${missing}"⟩
    let warning : Element := ⟨"warning", some Element.xccdf, [], [endpoint, filter], ""⟩
    resourcesOfRule .empty ⟨"Rule", none, [], [warning], ""⟩ = [.plain "/x"] := by
  cbv

end ClusterEvidence.Directive
