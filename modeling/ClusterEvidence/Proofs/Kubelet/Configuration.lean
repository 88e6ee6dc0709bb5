import ClusterEvidence.Filter.Result
import ClusterEvidence.Kubelet.Roles
import ClusterEvidence.Proofs.Filter.Parser
import ClusterEvidence.Proofs.Json.RoundTrip

/-!
# What is stored of a node's answer

The filter for kubelet configurations takes the member `kubeletconfig` of an answer and sets `kind`
and `apiVersion` in it; where the member is null or missing, these two are all there is. The result
is an object whatever the answer holds, and it is nested less deep than the answer, so that its text
is read back.

## Main results

* `applyTo_configFilter` — what the filter makes of a document.
* `exists_read_stamp` — it is read back as an equal value.
-/

namespace ClusterEvidence.Kubelet

open Json

variable {answer : Json} {members : List (String × Json)}

/-! ## The filter -/

/-- The stages of the filter. -/
def configStages : List Filter.Stage :=
  [.path [.field "kubeletconfig"],
    .assign [.field "kind"] (.string "KubeletConfiguration"),
    .assign [.field "apiVersion"] (.string "kubelet.config.k8s.io/v1beta1")]

/-- A string is read from its literal. -/
private theorem readString_quote (s : String) :
    readString (String.ofList (quote s)) = .ok (.string s) := by
  obtain ⟨value, hread, hequal⟩ := @read_compactBytes (.string s) trivial trivial
  rw [eq_string_of_equal hequal] at hread
  rw [readString, Text.encodeString, String.toList_ofList]
  exact hread

/-- An identifier is a path to one field. -/
private theorem derivesPath_field {field : String} {first : Char} {name : List Char}
    (hfield : field.toList = first :: name) (hfirst : Filter.isNameStart first = true)
    (hname : name.all Filter.isNameChar = true) :
    Filter.DerivesPath ('.' :: field.toList) [.field field] := by
  have hstep : Filter.DerivesSegment ('.' :: first :: name)
      (.field (String.ofList (first :: name))) :=
    .name (Filter.isNameStart_iff.1 hfirst) fun c hc =>
      Filter.isNameChar_iff.1 (List.all_eq_true.1 hname c hc)
  rw [← hfield, String.ofList_toList] at hstep
  exact .segments (.one hstep) rfl

/-- A stage that sets one field to a string. -/
private theorem derivesStage_set {field : String} (value : String)
    (hpath : Filter.DerivesPath ('.' :: field.toList) [.field field]) :
    Filter.DerivesStage ('.' :: field.toList ++ '=' :: quote value)
      (.assign [.field field] (.string value)) := by
  have hstage :=
    Filter.DerivesStage.assign .nil hpath .nil .nil (readString_quote value) .nil
  simpa using hstage

/-- The stages are what the text of the filter denotes. -/
private theorem derives_configFilter :
    Filter.DerivesFilter RoleIndex.configFilter.toList configStages := by
  have hselect : Filter.DerivesPath ('.' :: "kubeletconfig".toList) [.field "kubeletconfig"] :=
    derivesPath_field rfl rfl rfl
  have hkind : Filter.DerivesPath ('.' :: "kind".toList) [.field "kind"] :=
    derivesPath_field rfl rfl rfl
  have hversion : Filter.DerivesPath ('.' :: "apiVersion".toList) [.field "apiVersion"] :=
    derivesPath_field rfl rfl rfl
  have htext : RoleIndex.configFilter.toList =
      ([] ++ '.' :: "kubeletconfig".toList ++ []) ++ '|' ::
        (('.' :: "kind".toList ++ '=' :: quote "KubeletConfiguration") ++ '|' ::
          ('.' :: "apiVersion".toList ++ '=' :: quote "kubelet.config.k8s.io/v1beta1")) := by
    decide
  rw [htext]
  exact .more (.path .nil hselect .nil)
    (.more (derivesStage_set _ hkind) (.one (derivesStage_set _ hversion)))

private theorem parse_configFilter : Filter.parse RoleIndex.configFilter = .ok ⟨configStages⟩ :=
  Filter.parse_of_derives derives_configFilter

/-- The members of the configuration that an answer holds. -/
inductive Configures (answer : Json) : List (String × Json) → Prop where
  | object {members : List (String × Json)}
      (h : member? "kubeletconfig" answer = some (.object members)) : Configures answer members
  | null (h : member? "kubeletconfig" answer = some .null) : Configures answer []
  | missing (h : member? "kubeletconfig" answer = none) : Configures answer []

/-- The members of a standalone configuration. -/
def stamp (members : List (String × Json)) : List (String × Json) :=
  Entries.insert "apiVersion" (.string "kubelet.config.k8s.io/v1beta1")
    (Entries.insert "kind" (.string "KubeletConfiguration") members)

/-- The kind and the version say that the members are a kubelet configuration. -/
structure SaysKubelet (members : List (String × Json)) : Prop where
  kind : Entries.get? "kind" members = some (.string "KubeletConfiguration")
  apiVersion :
    Entries.get? "apiVersion" members = some (.string "kubelet.config.k8s.io/v1beta1")

theorem saysKubelet_stamp (members : List (String × Json)) : SaysKubelet (stamp members) := by
  constructor
  · rw [stamp, Entries.get?_insert_ne (by decide), Entries.get?_insert_self]
  · rw [stamp, Entries.get?_insert_self]

/-- All other members stay. -/
theorem get?_stamp {key : String} (hkind : key ≠ "kind") (hversion : key ≠ "apiVersion") :
    Entries.get? key (stamp members) = Entries.get? key members := by
  rw [stamp, Entries.get?_insert_ne (Ne.symm hversion), Entries.get?_insert_ne (Ne.symm hkind)]

/-- There is one such object. -/
theorem eq_stamp {stored : List (String × Json)} (hmembers : Entries.Sorted members)
    (hsorted : Entries.Sorted stored) (hkubelet : SaysKubelet stored)
    (hothers : ∀ key, key ≠ "kind" → key ≠ "apiVersion" →
      Entries.get? key stored = Entries.get? key members) : stored = stamp members := by
  refine hsorted.ext ((hmembers.insert _ _).insert _ _) fun key => ?_
  have hstamp := saysKubelet_stamp members
  by_cases hkind : key = "kind"
  · subst hkind
    exact hkubelet.kind.trans hstamp.kind.symm
  · by_cases hversion : key = "apiVersion"
    · subst hversion
      exact hkubelet.apiVersion.trans hstamp.apiVersion.symm
    · exact (hothers key hkind hversion).trans (get?_stamp hkind hversion).symm

/-- Setting both members in what the member `kubeletconfig` can be. -/
private theorem runAll_assign {value : Json} {results : List Json}
    (h : Filter.runAll configStages.tail [value] = .ok results) :
    (∃ members, value = .object members ∧ results = [.object (stamp members)]) ∨
      value = .null ∧ results = [.object (stamp [])] := by
  cases value with
  | null =>
      cases h
      exact .inr ⟨rfl, rfl⟩
  | object members =>
      cases h
      exact .inl ⟨members, rfl, rfl⟩
  | _ => cases h

/-- What the filter makes of an answer. -/
private theorem run_configStages {results : List Json}
    (h : Filter.run ⟨configStages⟩ answer = .ok results) :
    ∃ members, Configures answer members ∧ results = [.object (stamp members)] := by
  have hselect : ∃ value, Filter.runAll configStages.tail [value] = .ok results ∧
      (member? "kubeletconfig" answer).getD .null = value := by
    cases answer with
    | null => exact ⟨.null, h, rfl⟩
    | object members => exact ⟨(Entries.get? "kubeletconfig" members).getD .null, h, rfl⟩
    | _ => cases h
  obtain ⟨value, hrest, hvalue⟩ := hselect
  rcases runAll_assign hrest with ⟨members, rfl, hresults⟩ | ⟨rfl, hresults⟩
  · refine ⟨members, .object ?_, hresults⟩
    cases hmember : member? "kubeletconfig" answer with
    | none =>
        rw [hmember] at hvalue
        cases hvalue
    | some found =>
        rw [hmember] at hvalue
        exact congrArg some hvalue
  · refine ⟨[], ?_, hresults⟩
    cases hmember : member? "kubeletconfig" answer with
    | none => exact .missing hmember
    | some found =>
        rw [hmember] at hvalue
        exact .null (hmember.trans (congrArg some hvalue))

/-- What the filter makes of a document. -/
theorem applyTo_configFilter {document : Bytes} {filtered : Filtered}
    (h : Filter.applyTo RoleIndex.configFilter document = .ok filtered) :
    ∃ answer members, Json.read document = .ok answer ∧ Configures answer members ∧
      filtered.body = (Json.object (stamp members)).compactBytes := by
  rw [Filter.applyTo, parse_configFilter] at h
  cases hread : Json.read document with
  | error fault => simp [hread] at h
  | ok answer =>
      simp only [hread, Filter.first] at h
      cases hrun : Filter.run ⟨configStages⟩ answer with
      | error fault => simp [hrun] at h
      | ok results =>
          obtain ⟨members, hmembers, rfl⟩ := run_configStages hrun
          simp only [hrun, Except.ok.injEq] at h
          exact ⟨answer, members, rfl, hmembers, by rw [← h]⟩

/-! ## Reading it back -/

/-- The configuration in an answer is within the bounds of the answer, with room to spare. -/
private theorem Configures.within {p : Number → Prop} (h : Configures answer members) (room : Nat)
    (hanswer : Within p (room + 2) answer) : Within p (room + 1) (.object members) := by
  cases h with
  | object h =>
      cases answer <;> simp only [member?, reduceCtorEq] at h
      exact hanswer.2.get? h
  | null => exact ⟨by omega, trivial⟩
  | missing => exact ⟨by omega, trivial⟩

theorem Configures.canonical (h : Configures answer members) (hanswer : Canonical answer) :
    Canonical (.object members) := by
  cases h with
  | object h =>
      cases answer <;> simp only [member?, reduceCtorEq] at h
      exact hanswer.2.get? h
  | null => exact ⟨.nil, trivial⟩
  | missing => exact ⟨.nil, trivial⟩

/-- What is stored of an answer is read back as an equal value. -/
theorem exists_read_stamp {document : Bytes} (hread : Json.read document = .ok answer)
    (hdoubles : DoublesReadBack answer) (h : Configures answer members) :
    ∃ stored, Json.read (Json.object (stamp members)).compactBytes = .ok stored ∧
      equal (.object (stamp members)) stored = true ∧ DoublesReadBack stored := by
  have hcanonical : Canonical (.object (stamp members)) := by
    obtain ⟨hsorted, hmembers⟩ := h.canonical (canonical_of_read hread)
    refine ⟨(hsorted.insert _ _).insert _ _, ?_⟩
    rw [stamp]
    exact (hmembers.insert "kind" (by trivial)).insert "apiVersion" (by trivial)
  have hstamp {p : Number → Prop} (hanswer : Within p maxDepth answer) :
      Within p maxDepth (.object (stamp members)) := by
    obtain ⟨hroom, hmembers⟩ := h.within 125 hanswer
    have hboth : WithinMembers p (126 - 1) (stamp members) := by
      rw [stamp]
      exact (hmembers.insert "kind" (by trivial)).insert "apiVersion" (by trivial)
    exact Within.mono (by decide) ⟨hroom, hboth⟩
  have hwithin : Within Number.ReadsBack maxDepth (.object (stamp members)) :=
    DoublesReadBack.within (hstamp hdoubles) (hstamp (within_of_read hread))
  obtain ⟨stored, hstored, hequal⟩ := read_compactBytes hcanonical hwithin
  exact ⟨stored, hstored, hequal, DoublesReadBack.of_equal (hstamp hdoubles) hequal⟩

/-- A value that equals a kubelet configuration is one. -/
theorem SaysKubelet.of_equal {value : Json} (h : SaysKubelet members)
    (heq : equal (.object members) value = true) :
    ∃ others, value = .object others ∧ SaysKubelet others := by
  cases value <;> simp only [equal, Bool.false_eq_true] at heq
  next others =>
    have hfound {key text : String} (hget : Entries.get? key members = some (.string text)) :
        Entries.get? key others = some (.string text) := by
      have hrel := equalFound_of_equalMembers heq key
      rw [hget] at hrel
      cases hother : Entries.get? key others with
      | none =>
          rw [hother] at hrel
          cases hrel
      | some found =>
          rw [hother] at hrel
          cases hrel with
          | some hvalue => rw [eq_string_of_equal hvalue]
    exact ⟨others, rfl, hfound h.kind, hfound h.apiVersion⟩

end ClusterEvidence.Kubelet
