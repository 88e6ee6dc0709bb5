import ClusterEvidence.Proofs.Filter.Parser
import ClusterEvidence.Proofs.Json.Place
import ClusterEvidence.Proofs.Keyed
import ClusterEvidence.Proofs.MachineConfig

/-!
# Trimming takes the files away and nothing else

What trimming is to do is said by look-ups, apart from how it is done: a machine configuration keeps
everything outside `spec.config`, and the Ignition configuration there keeps everything but the
member `files` of an object `storage` (`Trimmed`). Where the Ignition configuration is written as a
text this holds of its value, before and after.

In place, a failure would leave behind what was changed until then. Nothing was: the value of a text
is edited apart from it, and what is found in place of an object is refused before anything is
changed (`run_trimInPlace`).

A text is read, trimmed and printed, so trimming it once more and comparing it with an object depend
on reading back what was printed. That it is read back as an equal value that is printed as before
is known for everything but doubles; of the doubles in the text it is asked (`ReadsBack`).

## Main results

* `losesFiles_withoutFiles`, `withoutFiles_eq_self`, `equal_withoutFiles` — the members of an
  Ignition configuration.
* `exists_read_withoutFiles` — its text.
* `trimConfig_eq_error_iff`, `configTrimmed_of_trimConfig`, `trimConfig_again` — what stands under
  `spec.config`.
* `run_trimInPlace` — what is left behind in place.
* `trim_trimsFiles` — the files are taken away and nothing else.
-/

namespace ClusterEvidence.MachineConfig

open Json (AlikeExcept Canonical DiffersAt DoublesReadBack Within equal maxDepth readString)
open Json.Pointer (follow?)
open Text (Blank)

/-! ## What trimming is to do -/

/-- Two objects that differ in one member only, which the second one does not have. -/
inductive LosesMember (key : String) : Json → Json → Prop where
  | object {a b : List (String × Json)} (helsewhere : AlikeExcept key a b)
      (hnone : Entries.get? key b = none) : LosesMember key (.object a) (.object b)

/-- The members of an Ignition configuration before and after its files are left out: where the
storage is an object it loses its files, and nothing else is changed. -/
inductive LosesFiles : List (String × Json) → List (String × Json) → Prop where
  | storage {a b : List (String × Json)}
      (h : DiffersAt (LosesMember "files") ["storage"] (.object a) (.object b)) : LosesFiles a b
  | same {a : List (String × Json)}
      (h : ∀ storage, Entries.get? "storage" a ≠ some (.object storage)) : LosesFiles a a

/-- What stands under `spec.config` before and after. It keeps its shape; of a text it is the value
that loses its files. -/
inductive ConfigTrimmed : Json → Json → Prop where
  | null : ConfigTrimmed .null .null
  | blank {text : String} (h : Blank text.toList) : ConfigTrimmed (.string text) (.string text)
  | object {a b : List (String × Json)} (h : LosesFiles a b) : ConfigTrimmed (.object a) (.object b)
  | text {text written : String} {a b : List (String × Json)} {back : Json}
      (hread : readString text = .ok (.object a)) (h : LosesFiles a b)
      (hback : readString written = .ok back) (hequal : equal (.object b) back = true) :
      ConfigTrimmed (.string text) (.string written)

/-- A machine configuration before and after. -/
inductive Trimmed : Json → Json → Prop where
  | missing {item : Json} (h : follow? configPath item = none) : Trimmed item item
  | config {item trimmed : Json} (h : DiffersAt ConfigTrimmed configPath item trimmed) :
      Trimmed item trimmed

/-- What stands under `spec.config` and cannot be trimmed. -/
inductive IsRefused : Json → Prop where
  | bool (b : Bool) : IsRefused (.bool b)
  | number (n : Json.Number) : IsRefused (.number n)
  | array (items : List Json) : IsRefused (.array items)
  | text {text : String} (hblank : ¬ Blank text.toList)
      (hread : ∀ members, readString text ≠ .ok (.object members)) : IsRefused (.string text)

/-! ## Ignition configurations -/

variable {members others : List (String × Json)}

/-- Of the members of an Ignition configuration, the storage has no files. -/
def HasNoFiles (members : List (String × Json)) : Prop :=
  ∀ storage, Entries.get? "storage" members = some (.object storage) →
    Entries.get? "files" storage = none

theorem withoutFiles_of_object {storage : List (String × Json)}
    (h : Entries.get? "storage" members = some (.object storage)) :
    withoutFiles members =
      Entries.insert "storage" (.object (Entries.erase "files" storage)) members := by
  unfold withoutFiles
  rw [h]

theorem withoutFiles_of_not_object
    (h : ∀ storage, Entries.get? "storage" members ≠ some (.object storage)) :
    withoutFiles members = members := by
  unfold withoutFiles
  split
  · next storage hget => exact absurd hget (h storage)
  · rfl

theorem losesFiles_withoutFiles (members : List (String × Json)) :
    LosesFiles members (withoutFiles members) := by
  by_cases hobject : ∃ storage, Entries.get? "storage" members = some (.object storage)
  · obtain ⟨storage, hget⟩ := hobject
    rw [withoutFiles_of_object hget]
    apply LosesFiles.storage
    apply DiffersAt.member _ hget (Entries.get?_insert_self _ _ _)
    · apply DiffersAt.here
      apply LosesMember.object
      · intro other hne
        rw [Entries.get?_erase, if_neg (Ne.symm hne)]
      · rw [Entries.get?_erase, if_pos rfl]
    · intro other hne
      rw [Entries.get?_insert_ne (Ne.symm hne)]
  · have hnot : ∀ storage, Entries.get? "storage" members ≠ some (.object storage) :=
      fun storage hget => hobject ⟨storage, hget⟩
    rw [withoutFiles_of_not_object hnot]
    exact .same hnot

private theorem hasNoFiles_withoutFiles (members : List (String × Json)) :
    HasNoFiles (withoutFiles members) := by
  intro kept hkept
  by_cases hobject : ∃ storage, Entries.get? "storage" members = some (.object storage)
  · obtain ⟨storage, hget⟩ := hobject
    rw [withoutFiles_of_object hget, Entries.get?_insert_self] at hkept
    cases hkept
    rw [Entries.get?_erase, if_pos rfl]
  · have hnot : ∀ storage, Entries.get? "storage" members ≠ some (.object storage) :=
      fun storage hget => hobject ⟨storage, hget⟩
    rw [withoutFiles_of_not_object hnot] at hkept
    exact absurd hkept (hnot kept)

/-- Where there are no files, none are taken away. -/
theorem withoutFiles_eq_self (h : HasNoFiles members) (hsorted : Entries.Sorted members) :
    withoutFiles members = members := by
  by_cases hobject : ∃ storage, Entries.get? "storage" members = some (.object storage)
  · obtain ⟨storage, hget⟩ := hobject
    have herase : Entries.erase "files" storage = storage := by
      apply List.filter_eq_self.2
      intro entry hentry
      simpa using Entries.get?_eq_none_iff.1 (h storage hget) entry hentry
    have hput := hsorted.put_get? "storage"
    rw [hget] at hput
    rw [withoutFiles_of_object hget, herase]
    exact hput
  · exact withoutFiles_of_not_object fun storage hget => hobject ⟨storage, hget⟩

theorem canonical_withoutFiles (h : Canonical (.object members)) :
    Canonical (.object (withoutFiles members)) := by
  unfold withoutFiles
  split
  · next storage hget =>
      have hstorage : Canonical (.object storage) := h.2.get? hget
      exact ⟨h.1.insert _ _, h.2.insert _ ⟨hstorage.1.erase _, hstorage.2.erase _⟩⟩
  · exact h

private theorem within_withoutFiles {p : Json.Number → Prop} {room : Nat}
    (h : Within p room (.object members)) : Within p room (.object (withoutFiles members)) := by
  unfold withoutFiles
  split
  · next storage hget =>
      have hstorage : Within p (room - 1) (.object storage) := h.2.get? hget
      exact ⟨h.1, h.2.insert _ ⟨hstorage.1, hstorage.2.erase _⟩⟩
  · exact h

/-- Where one of two equal objects has an object, the other has an equal one. -/
private theorem exists_object_of_equal {key : String} {inner : List (String × Json)}
    (hequal : equal (.object members) (.object others) = true)
    (h : Entries.get? key members = some (.object inner)) :
    ∃ other, Entries.get? key others = some (.object other) ∧
      equal (.object inner) (.object other) = true := by
  have hfound := Json.equalFound_of_equalMembers hequal key
  rw [h] at hfound
  cases hother : Entries.get? key others with
  | none =>
      rw [hother] at hfound
      cases hfound
  | some value =>
      rw [hother] at hfound
      cases hfound with
      | some hvalue =>
          cases value <;> simp only [equal, Bool.false_eq_true] at hvalue
          exact ⟨_, rfl, hvalue⟩

/-- Of equal Ignition configurations both have no files or none. -/
private theorem HasNoFiles.of_equal (h : HasNoFiles members)
    (hequal : equal (.object members) (.object others) = true) : HasNoFiles others := by
  intro storage hget
  obtain ⟨inner, hinner, hequal'⟩ := exists_object_of_equal (Json.equal_symm hequal) hget
  have hfiles := Json.equalFound_of_equalMembers hequal' "files"
  rw [h inner hinner] at hfiles
  cases hnone : Entries.get? "files" storage with
  | none => rfl
  | some value =>
      rw [hnone] at hfiles
      cases hfiles

private theorem equal_erase {key : String} (hmembers : Entries.Sorted members)
    (hothers : Entries.Sorted others) (hequal : equal (.object members) (.object others) = true) :
    equal (.object (Entries.erase key members)) (.object (Entries.erase key others)) = true := by
  apply Json.equalMembers_of_equalFound (hmembers.erase key) (hothers.erase key)
  intro other
  rw [Entries.get?_erase, Entries.get?_erase]
  split
  · exact .none
  · exact Json.equalFound_of_equalMembers hequal other

/-- Equal Ignition configurations are equal without their files. -/
theorem equal_withoutFiles (hmembers : Canonical (.object members))
    (hothers : Canonical (.object others))
    (hequal : equal (.object members) (.object others) = true) :
    equal (.object (withoutFiles members)) (.object (withoutFiles others)) = true := by
  by_cases hobject : ∃ storage, Entries.get? "storage" members = some (.object storage)
  · obtain ⟨storage, hget⟩ := hobject
    obtain ⟨other, hother, hstorage⟩ := exists_object_of_equal hequal hget
    have hsorted : Entries.Sorted storage := (hmembers.2.get? hget).1
    have hsorted' : Entries.Sorted other := (hothers.2.get? hother).1
    rw [withoutFiles_of_object hget, withoutFiles_of_object hother]
    apply Json.equalMembers_of_equalFound (hmembers.1.insert _ _) (hothers.1.insert _ _)
    intro key
    rw [Entries.get?_insert, Entries.get?_insert]
    split
    · exact .some (equal_erase hsorted hsorted' hstorage)
    · exact Json.equalFound_of_equalMembers hequal key
  · have hnot : ∀ storage, Entries.get? "storage" members ≠ some (.object storage) :=
      fun storage hget => hobject ⟨storage, hget⟩
    have hnot' : ∀ storage, Entries.get? "storage" others ≠ some (.object storage) := by
      intro storage hget
      obtain ⟨inner, hinner, _⟩ := exists_object_of_equal (Json.equal_symm hequal) hget
      exact hnot inner hinner
    rw [withoutFiles_of_not_object hnot, withoutFiles_of_not_object hnot']
    exact hequal

/-! ## The text of an Ignition configuration -/

theorem isEmpty_trim_iff {text : List Char} : (Text.trim text).isEmpty = true ↔ Blank text := by
  obtain ⟨front, tail, htext, hfront, htail, _⟩ := Text.exists_trim text
  constructor
  · intro hempty
    rw [List.isEmpty_iff.1 hempty, List.append_nil] at htext
    rw [htext]
    exact hfront.append htail
  · intro hblank
    have hall : Text.trim (text ++ [] ++ []) = [] :=
      Text.trim_eq hblank .nil (by simp [Text.Begins]) (by simp [Text.Closes])
    rw [List.append_nil, List.append_nil] at hall
    rw [hall]
    rfl

/-- A text that is read is not blank. -/
private theorem not_blank_of_readString {text : String} {value : Json}
    (h : readString text = .ok value) : ¬ Blank text.toList := by
  intro hblank
  have hall : readString (String.ofList (text.toList ++ [] ++ [])) = .ok value := by
    rw [List.append_nil, List.append_nil, String.ofList_toList]
    exact h
  exact Filter.ne_nil_of_readString (Filter.readString_of_blank hall hblank .nil) rfl

private theorem readString_compactString (value : Json) :
    readString value.compactString = Json.read value.compactBytes := by
  rw [readString, Text.encodeString, Json.compactString, String.toList_ofList]
  rfl

/-- The text of an Ignition configuration without its files is read back as one that has none, and
that is printed as it was. -/
theorem exists_read_withoutFiles {text : String}
    (hread : readString text = .ok (.object members))
    (hdoubles : DoublesReadBack (.object members)) :
    ∃ back, readString (Json.object (withoutFiles members)).compactString = .ok (.object back) ∧
      equal (.object (withoutFiles members)) (.object back) = true ∧
      (Json.object (withoutFiles back)).compactString =
        (Json.object (withoutFiles members)).compactString := by
  have hcanonical := canonical_withoutFiles (Json.canonical_of_read hread)
  have hfits := within_withoutFiles (Json.within_of_read hread)
  have hwithin := DoublesReadBack.within (within_withoutFiles hdoubles) hfits
  obtain ⟨other, hother, hequal, hsame⟩ := Json.read_compactBytes_again hcanonical hwithin
  cases other <;> simp only [equal, Bool.false_eq_true] at hequal
  next back =>
    have hsorted : Entries.Sorted back := (Json.canonical_of_read hother).1
    have hnone : HasNoFiles back := (hasNoFiles_withoutFiles members).of_equal hequal
    refine ⟨back, ?_, hequal, ?_⟩
    · rw [readString_compactString]
      exact hother
    · rw [withoutFiles_eq_self hnone hsorted]
      exact hsame

/-! ## What stands under the configuration's place -/

/-- The doubles of a configuration that is written as a text are read back. -/
def TextReadsBack (config : Json) : Prop :=
  ∀ text ignition, config = .string text → readString text = .ok ignition →
    DoublesReadBack ignition

variable {config trimmed : Json}

/-- A text that can be trimmed is the text of an object. -/
theorem trimConfig_text {text : String} (hread : readString text = .ok (.object members)) :
    trimConfig (.string text) =
      .ok (.string (Json.object (withoutFiles members)).compactString) := by
  have hblank : ¬ (Text.trim text.toList).isEmpty = true := fun hempty =>
    not_blank_of_readString hread (isEmpty_trim_iff.1 hempty)
  rw [trimConfig, if_neg hblank, hread]
  rfl

theorem trimConfig_blank {text : String} (h : Blank text.toList) :
    trimConfig (.string text) = .ok (.string text) := by
  rw [trimConfig, if_pos (isEmpty_trim_iff.2 h)]

/-- What becomes of a configuration that can be trimmed. -/
inductive TrimsTo : Json → Json → Prop where
  | null : TrimsTo .null .null
  | blank {text : String} (hblank : Blank text.toList) :
      TrimsTo (.string text) (.string text)
  | object (members : List (String × Json)) :
      TrimsTo (.object members) (.object (withoutFiles members))
  | text {text : String} {members : List (String × Json)}
      (hread : readString text = .ok (.object members)) :
      TrimsTo (.string text) (.string (Json.object (withoutFiles members)).compactString)

theorem trimsTo_of_trimConfig (h : trimConfig config = .ok trimmed) : TrimsTo config trimmed := by
  cases config with
  | null =>
      cases h
      exact .null
  | object members =>
      cases h
      exact .object members
  | string text =>
      by_cases hblank : Blank text.toList
      · rw [trimConfig_blank hblank] at h
        cases h
        exact .blank hblank
      · cases hread : readString text with
        | error fault =>
            rw [trimConfig, if_neg fun hempty => hblank (isEmpty_trim_iff.1 hempty), hread] at h
            cases h
        | ok ignition =>
            cases ignition with
            | object members =>
                rw [trimConfig_text hread] at h
                cases h
                exact .text hread
            | _ =>
                rw [trimConfig, if_neg fun hempty => hblank (isEmpty_trim_iff.1 hempty), hread] at h
                cases h
  | _ => cases h

private theorem trimConfig_of_trimsTo (h : TrimsTo config trimmed) :
    trimConfig config = .ok trimmed := by
  cases h with
  | null => rfl
  | blank hblank => exact trimConfig_blank hblank
  | object members => rfl
  | text hread => exact trimConfig_text hread

/-- What cannot be trimmed. -/
theorem trimConfig_eq_error_iff :
    (∃ fault, trimConfig config = .error fault) ↔ IsRefused config := by
  constructor
  · rintro ⟨fault, h⟩
    cases config with
    | null => cases h
    | bool b => exact .bool b
    | number n => exact .number n
    | array items => exact .array items
    | object members => cases h
    | string text =>
        apply IsRefused.text
        · intro hblank
          rw [trimConfig_blank hblank] at h
          cases h
        · intro members hread
          rw [trimConfig_text hread] at h
          cases h
  · intro h
    cases h with
    | bool b => exact ⟨_, rfl⟩
    | number n => exact ⟨_, rfl⟩
    | array items => exact ⟨_, rfl⟩
    | @text text hblank hread =>
        cases htrim : trimConfig (.string text) with
        | error fault => exact ⟨fault, rfl⟩
        | ok trimmed =>
            cases trimsTo_of_trimConfig htrim with
            | blank hyes => exact absurd hyes hblank
            | text hmembers => exact absurd hmembers (hread _)

theorem configTrimmed_of_trimConfig (h : trimConfig config = .ok trimmed)
    (hback : TextReadsBack config) : ConfigTrimmed config trimmed := by
  cases trimsTo_of_trimConfig h with
  | null => exact .null
  | blank hblank => exact .blank hblank
  | object members => exact .object (losesFiles_withoutFiles members)
  | @text text members hread =>
      obtain ⟨back, hread', hequal, _⟩ := exists_read_withoutFiles hread (hback text _ rfl hread)
      exact .text hread (losesFiles_withoutFiles members) hread' hequal

/-- What was trimmed is not changed by trimming it once more. -/
theorem trimConfig_again (h : trimConfig config = .ok trimmed) (hcanonical : Canonical config)
    (hback : TextReadsBack config) : trimConfig trimmed = .ok trimmed := by
  apply trimConfig_of_trimsTo
  cases trimsTo_of_trimConfig h with
  | null => exact .null
  | blank hblank => exact .blank hblank
  | object members =>
      have hsorted := (canonical_withoutFiles hcanonical).1
      have hagain := TrimsTo.object (withoutFiles members)
      rwa [withoutFiles_eq_self (hasNoFiles_withoutFiles members) hsorted] at hagain
  | @text text members hread =>
      obtain ⟨back, hread', _, hsame⟩ := exists_read_withoutFiles hread (hback text _ rfl hread)
      have hagain := TrimsTo.text hread'
      rwa [hsame] at hagain

private theorem canonical_of_trimConfig (h : trimConfig config = .ok trimmed)
    (hcanonical : Canonical config) : Canonical trimmed := by
  cases trimsTo_of_trimConfig h with
  | null => exact hcanonical
  | blank hblank => exact hcanonical
  | object members => exact canonical_withoutFiles hcanonical
  | text hread => trivial

/-! ## In place -/

/-- What an edit leaves behind: the result, or what was there when it fails. -/
def leaves (before : Json) : Except Error Json → Except Error Unit × Json
  | .ok after => (.ok (), after)
  | .error e => (.error e, before)

private theorem leaves_eq_ok_iff {before after : Json} {result : Except Error Json} :
    leaves before result = (.ok (), after) ↔ result = .ok after := by
  constructor
  · intro h
    cases result with
    | ok found =>
        cases h
        rfl
    | error e => cases h
  · rintro rfl
    rfl

/-- The error of a machine configuration with a name. -/
def named (name : String) (result : Except IgnitionFault Json) : Except Error Json :=
  result.mapError (.machineConfig name)

private theorem run_editAt (path : List String) (edit : Editing) (value : Json) :
    (editAt path edit).run value =
      match follow? path value with
      | none => (Except.ok (), value)
      | some found =>
          ((edit.run found).1, Json.Pointer.update (fun _ => (edit.run found).2) path value) := rfl

/-- An edit at a place leaves the rest as it is, and everything when it fails. -/
private theorem run_editAt_of_leaves {path : List String} {edit : Editing} {value found : Json}
    {result : Except Error Json} (hvalue : Canonical value)
    (hfollow : follow? path value = some found)
    (hedit : edit.run found = leaves found result) :
    (editAt path edit).run value =
      leaves value (result.map fun edited => Json.Pointer.update (fun _ => edited) path value) := by
  rw [run_editAt, hfollow]
  dsimp only
  rw [hedit]
  cases result with
  | ok edited => rfl
  | error e =>
      show (Except.error e, Json.Pointer.update (fun _ => found) path value) = _
      rw [Json.update_self hvalue hfollow]
      rfl

private theorem run_editAt_of_none {path : List String} {edit : Editing} {value : Json}
    (hfollow : follow? path value = none) : (editAt path edit).run value = (.ok (), value) := by
  rw [run_editAt, hfollow]

/-- The storage of an Ignition configuration is edited in its place. -/
private theorem run_dropFiles (h : Canonical (.object members)) :
    (editAt ["storage"] (modify (dropMember "files"))).run (.object members) =
      (.ok (), .object (withoutFiles members)) := by
  have hfollow : follow? ["storage"] (.object members) = Entries.get? "storage" members := by
    rw [Json.Printable.follow?_cons]
    exact Option.bind_fun_some _
  cases hget : Entries.get? "storage" members with
  | none =>
      rw [run_editAt_of_none (hfollow.trans hget), withoutFiles_of_not_object (by simp [hget])]
  | some found =>
      have hedit : (modify (dropMember "files") : Editing).run found =
          leaves found (.ok (dropMember "files" found)) := rfl
      have hupdate : Json.Pointer.update (fun _ => dropMember "files" found) ["storage"]
          (.object members) =
            .object (Entries.insert "storage" (dropMember "files" found) members) := by
        rw [Json.Pointer.update, hget]
        rfl
      rw [run_editAt_of_leaves h (hfollow.trans hget) hedit, Except.map, hupdate]
      cases found with
      | object storage =>
          rw [withoutFiles_of_object hget]
          rfl
      | _ =>
          have hput := h.1.put_get? "storage"
          rw [hget, Entries.put] at hput
          rw [dropMember, hput, withoutFiles_of_not_object (by simp [hget])]
          · rfl
          · simp

private theorem run_stripFilesInPlace {ignition : Json} (name : String) (h : Canonical ignition) :
    (stripFilesInPlace name).run ignition = leaves ignition (named name (stripFiles ignition)) := by
  cases ignition with
  | object members => exact run_dropFiles h
  | _ => rfl

/-- Trims a configuration that is written as a text and is not blank. -/
def trimTextInPlace (name text : String) : Editing :=
  match readString text with
  | .error fault => throw (.machineConfig name (.malformed fault))
  | .ok ignition =>
      match ((stripFilesInPlace name).run ignition).1 with
      | .error e => throw e
      | .ok () => set (Json.string ((stripFilesInPlace name).run ignition).2.compactString)

private theorem run_trimConfigInPlace (name : String) (h : Canonical config) :
    (trimConfigInPlace name).run config = leaves config (named name (trimConfig config)) := by
  cases config with
  | object members => exact run_stripFilesInPlace name h
  | string text =>
      show (if (Text.trim text.toList).isEmpty then pure () else trimTextInPlace name text :
        Editing).run (.string text) = _
      rw [trimConfig, trimTextInPlace]
      split
      · rfl
      · cases hread : readString text with
        | error fault => rfl
        | ok ignition =>
            have hcanonical : Canonical ignition := Json.canonical_of_read hread
            dsimp only
            rw [run_stripFilesInPlace name hcanonical]
            cases stripFiles ignition with
            | error fault => rfl
            | ok stripped => rfl
  | _ => rfl

variable {item : Json}

/-- A machine configuration with another configuration in its place. -/
def withConfig (trimmed item : Json) : Json :=
  Json.Pointer.update (fun _ => trimmed) configPath item

theorem trim_of_none (h : follow? configPath item = none) : trim item = .ok item := by
  unfold trim
  rw [h]

theorem trim_of_some (h : follow? configPath item = some config) :
    trim item =
      (named (name item) (trimConfig config)).map fun trimmed => withConfig trimmed item := by
  unfold trim
  rw [h]
  dsimp only
  cases trimConfig config <;> rfl

/-- Trimming in place leaves the trimmed machine configuration behind, or the one that was there. -/
theorem run_trimInPlace (h : Canonical item) :
    trimInPlace.run item = leaves item (trim item) := by
  have hrun : trimInPlace.run item =
      (editAt configPath (trimConfigInPlace (name item))).run item := rfl
  rw [hrun]
  cases hfollow : follow? configPath item with
  | none =>
      rw [trim_of_none hfollow]
      exact run_editAt_of_none hfollow
  | some config =>
      rw [trim_of_some hfollow]
      have hconfig := run_trimConfigInPlace (name item) (Json.canonical_of_follow? h hfollow)
      exact run_editAt_of_leaves h hfollow hconfig

/-! ## Machine configurations -/

/-- The doubles of a configuration that is written as a text are read back. -/
def ReadsBack (item : Json) : Prop :=
  ∀ config, follow? configPath item = some config → TextReadsBack config

theorem trim_of_config (h : follow? configPath item = some config)
    (htrim : trimConfig config = .ok trimmed) : trim item = .ok (withConfig trimmed item) := by
  rw [trim_of_some h, htrim]
  rfl

/-- What becomes of a machine configuration that can be trimmed. -/
theorem cases_of_trim {result : Json} (h : trim item = .ok result) :
    follow? configPath item = none ∧ result = item ∨
      ∃ config trimmed, follow? configPath item = some config ∧
        trimConfig config = .ok trimmed ∧ result = withConfig trimmed item := by
  cases hfollow : follow? configPath item with
  | none =>
      rw [trim_of_none hfollow] at h
      cases h
      exact .inl ⟨rfl, rfl⟩
  | some config =>
      cases htrim : trimConfig config with
      | error fault =>
          rw [trim_of_some hfollow, htrim] at h
          cases h
      | ok trimmed =>
          rw [trim_of_config hfollow htrim] at h
          cases h
          exact .inr ⟨config, trimmed, rfl, htrim, rfl⟩

private theorem trim_eq_error_iff :
    (∃ e, trim item = .error e) ↔
      ∃ config, follow? configPath item = some config ∧ IsRefused config := by
  cases hfollow : follow? configPath item with
  | none => simp [trim_of_none hfollow]
  | some config =>
      rw [trim_of_some hfollow]
      simp only [Option.some.injEq, exists_eq_left', ← trimConfig_eq_error_iff]
      cases trimConfig config <;> simp [named, Except.mapError, Except.map]

/-- Neither key on the way to the configuration is an index. -/
private theorem index?_configPath : ∀ key ∈ configPath, Json.Pointer.index? key = none := by
  decide

private theorem differsAt_withConfig {R : Json → Json → Prop}
    (h : follow? configPath item = some config)
    (hR : R config trimmed) : DiffersAt R configPath item (withConfig trimmed item) :=
  Json.differsAt_update index?_configPath h hR

/-- The configuration that was put in is found. -/
private theorem follow?_withConfig (h : follow? configPath item = some config) :
    follow? configPath (withConfig trimmed item) = some trimmed := by
  have hdiffers : DiffersAt (fun _ b => b = trimmed) configPath item (withConfig trimmed item) :=
    differsAt_withConfig h rfl
  obtain ⟨_, found, _, hfound, rfl⟩ := hdiffers.exists_follow?
  exact hfound

private theorem canonical_of_trim {result : Json} (h : trim item = .ok result)
    (hitem : Canonical item) :
    Canonical result := by
  rcases cases_of_trim h with ⟨_, rfl⟩ | ⟨config, trimmed, hfollow, htrim, rfl⟩
  · exact hitem
  · apply Json.canonical_update hitem
    intro _ _
    exact canonical_of_trimConfig htrim (Json.canonical_of_follow? hitem hfollow)

private theorem trimmed_of_trim {result : Json} (h : trim item = .ok result)
    (hback : ReadsBack item) :
    Trimmed item result := by
  rcases cases_of_trim h with ⟨hnone, rfl⟩ | ⟨config, trimmed, hfollow, htrim, rfl⟩
  · exact .missing hnone
  · apply Trimmed.config
    apply differsAt_withConfig hfollow
    exact configTrimmed_of_trimConfig htrim (hback config hfollow)

/-- A machine configuration that was trimmed is not changed by trimming it once more. -/
private theorem trim_again {result : Json} (h : trim item = .ok result) (hitem : Canonical item)
    (hback : ReadsBack item) : trim result = .ok result := by
  have hcanonical := canonical_of_trim h hitem
  rcases cases_of_trim h with ⟨hnone, rfl⟩ | ⟨config, trimmed, hfollow, htrim, rfl⟩
  · exact trim_of_none hnone
  · have hconfig := Json.canonical_of_follow? hitem hfollow
    have hfollow' : follow? configPath (withConfig trimmed item) = some trimmed :=
      follow?_withConfig hfollow
    rw [trim_of_config hfollow' (trimConfig_again htrim hconfig (hback config hfollow))]
    exact congrArg Except.ok (Json.update_self hcanonical hfollow')

/-- An object and its text are trimmed alike. -/
private theorem exists_trim_alike {other : Json} {text : String} {ignition : Json}
    (hback : ReadsBack item) (htext : follow? configPath item = some (.string text))
    (hread : readString text = .ok ignition) (hother : Canonical other)
    (hobject : follow? configPath other = some (.object members))
    (hequal : equal (.object members) ignition = true) :
    ∃ written back stripped, trim item = .ok (withConfig (.string written) item) ∧
      trim other = .ok (withConfig (.object stripped) other) ∧
      readString written = .ok back ∧ equal (.object stripped) back = true := by
  cases ignition <;> simp only [equal, Bool.false_eq_true] at hequal
  next others =>
    have hmembers := Json.canonical_of_follow? hother hobject
    have hothers := Json.canonical_of_read hread
    obtain ⟨back, hback', hsame, _⟩ :=
      exists_read_withoutFiles hread (hback _ htext text _ rfl hread)
    refine ⟨_, .object back, withoutFiles members, trim_of_config htext (trimConfig_text hread),
      trim_of_config hobject rfl, hback', ?_⟩
    exact Json.equal_trans (equal_withoutFiles hmembers hothers hequal) hsame

/-! ## The files are taken away and nothing else -/

/-- How a machine configuration is trimmed in its place. -/
structure TrimsFiles (item : Json) : Prop where
  fails_iff : (∃ e, (trimInPlace.run item).1 = .error e) ↔
    ∃ config, follow? configPath item = some config ∧ IsRefused config
  unchanged : ∀ e, (trimInPlace.run item).1 = .error e → (trimInPlace.run item).2 = item
  trims : ReadsBack item → ∀ trimmed, trimInPlace.run item = (.ok (), trimmed) →
    Trimmed item trimmed ∧ Canonical trimmed
  again : ReadsBack item → ∀ trimmed, trimInPlace.run item = (.ok (), trimmed) →
    trimInPlace.run trimmed = (.ok (), trimmed)
  /-- Another machine configuration that has as an object what this one has as a text. -/
  alike : ReadsBack item → ∀ text ignition other members,
    follow? configPath item = some (.string text) → readString text = .ok ignition →
    Canonical other → follow? configPath other = some (.object members) →
    equal (.object members) ignition = true →
    ∃ trimmed trimmedOther written back stripped,
      trimInPlace.run item = (.ok (), trimmed) ∧
      trimInPlace.run other = (.ok (), trimmedOther) ∧
      follow? configPath trimmed = some (.string written) ∧
      follow? configPath trimmedOther = some (.object stripped) ∧
      readString written = .ok back ∧ equal (.object stripped) back = true
  /-- A machine configuration that is not trimmed in its place becomes the same. -/
  sameResult : ∀ trimmed, trim item = .ok trimmed ↔ trimInPlace.run item = (.ok (), trimmed)

/-- Trimming takes the files of the storage away and nothing else, in both shapes of a configuration
alike, or fails and takes nothing away. -/
theorem trim_trimsFiles (h : Canonical item) : TrimsFiles item := by
  have hrun := run_trimInPlace h
  have hsame (trimmed : Json) :
      trim item = .ok trimmed ↔ trimInPlace.run item = (.ok (), trimmed) := by
    rw [hrun]
    exact leaves_eq_ok_iff.symm
  refine
    { fails_iff := ?_
      unchanged := ?_
      trims := fun hback trimmed htrimmed => ?_
      again := fun hback trimmed htrimmed => ?_
      alike := ?_
      sameResult := hsame }
  · rw [hrun, ← trim_eq_error_iff]
    cases trim item <;> simp [leaves]
  · rw [hrun]
    cases trim item <;> simp [leaves]
  · have htrim := (hsame trimmed).2 htrimmed
    exact ⟨trimmed_of_trim htrim hback, canonical_of_trim htrim h⟩
  · have htrim := (hsame trimmed).2 htrimmed
    rw [run_trimInPlace (canonical_of_trim htrim h), trim_again htrim h hback]
    rfl
  · intro hback text ignition other members htext hread hother hobject hequal
    obtain ⟨written, back, stripped, htrim, htrim', hwritten, hresult⟩ :=
      exists_trim_alike hback htext hread hother hobject hequal
    refine ⟨_, _, written, back, stripped, (hsame _).1 htrim, ?_, follow?_withConfig htext,
      follow?_withConfig hobject, hwritten, hresult⟩
    rw [run_trimInPlace hother, htrim']
    rfl

/-- The Ignition configuration of the case below, with a double beside its files. -/
def timedIgnition : Json :=
  .object
    [("ignition", .object [("timeout", .number (.double ⟨false, Nat.pow 2 52, -53⟩))]),
      ("storage", .object [("files", .array [.null])])]

/-- A machine configuration with an Ignition configuration as a text. -/
def legacy : Json :=
  .object
    [("metadata", .object [("name", .string "99-legacy")]),
      ("spec", .object [("config", .string timedIgnition.compactString)])]

private theorem doublesReadBack_timedIgnition : DoublesReadBack timedIgnition := by
  have hscan : Json.Token.scan (Text.encode (Json.Number.double ⟨false, Nat.pow 2 52, -53⟩).text) =
      some (.number (some (.double ⟨false, Nat.pow 2 52, -53⟩)), []) := by
    decide +kernel
  have hhalf : (Json.Number.double ⟨false, Nat.pow 2 52, -53⟩).ReadsBack :=
    ⟨_, Json.read_of_tokenizes (.of_scan hscan) rfl rfl, Json.Number.equal_self _⟩
  refine ⟨by decide, ⟨by decide, ?_, trivial⟩, ⟨by decide, ⟨by decide, trivial, trivial⟩, trivial⟩,
    trivial⟩
  intro _ _
  exact hhalf

private theorem canonical_timedIgnition : Canonical timedIgnition := by
  have hkeys : ["ignition", "storage"].Pairwise (· < ·) := by decide
  exact ⟨List.pairwise_map.1 hkeys, ⟨List.pairwise_singleton _ _, trivial, trivial⟩,
    ⟨List.pairwise_singleton _ _, ⟨trivial, trivial⟩, trivial⟩, trivial⟩

private theorem readsBack_legacy : ReadsBack legacy := by
  rintro config ⟨⟩ text ignition ⟨⟩ hread
  have hfits : Within Json.Number.Fits maxDepth timedIgnition :=
    ⟨by decide, ⟨by decide, trivial, trivial⟩,
      ⟨by decide, ⟨by decide, trivial, trivial⟩, trivial⟩, trivial⟩
  have hwithin := doublesReadBack_timedIgnition.within hfits
  obtain ⟨other, hother, hequal⟩ := Json.read_compactBytes canonical_timedIgnition hwithin
  rw [readString_compactString, hother, Except.ok.injEq] at hread
  subst hread
  exact doublesReadBack_timedIgnition.of_equal hequal

theorem trim_trimsFiles_legacy : Canonical legacy ∧ ReadsBack legacy ∧ TrimsFiles legacy := by
  have hcanonical : Canonical legacy := by
    have hkeys : ["metadata", "spec"].Pairwise (· < ·) := by decide
    exact ⟨List.pairwise_map.1 hkeys, ⟨List.pairwise_singleton _ _, trivial, trivial⟩,
      ⟨List.pairwise_singleton _ _, trivial, trivial⟩, trivial⟩
  exact ⟨hcanonical, readsBack_legacy, trim_trimsFiles hcanonical⟩

end ClusterEvidence.MachineConfig
