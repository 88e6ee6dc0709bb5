import ClusterEvidence.Proofs.FileSystem.Making
import ClusterEvidence.Save

/-!
# Writing files one after another

Files are written below a root in which nothing lies. As long as no place of one is on the way to
the place of another, what lies below the root is described by what was written (`Holds`): a file
holds what was last written at its place, and the directories are those on the way to a file. One
more file keeps this, and so do all.

A file that is in the way of another ends the writing, because what is there stays what it is.

## Main results

* `Holds.writeBelow` — one more file is written.
* `Holds.writeAll` — all files are written, and the last at each place is there.
* `writeAll_done` — after all files were written they are there; `apart_of_isFileAt`: so none is
  on the way to another.
* `extends_outcome` — saving takes nothing away, also when it fails.
-/

namespace ClusterEvidence.Save

open FileSystem

/-! ## Files to write -/

/-- A file to write: the names of its directories below the root, its own name, and what it is to
hold. -/
structure Item where
  directory : List String
  file : String
  body : Bytes

namespace Item

/-- Where the file is to lie below the root. -/
def place (item : Item) : List String := item.directory ++ [item.file]

/-- Where the file goes. -/
def goal (root : String) (item : Item) : Destination :=
  ⟨Path.join root (String.intercalate "/" item.directory), item.file⟩

/-- A file that a file system can have. -/
structure IsPossible (root : String) (item : Item) : Prop where
  short : ∀ name ∈ item.place, IsShortName name
  noFault : textFault? (item.goal root).path = none

end Item

variable {files after : FileSystem} {root : String} {base : Location} {item : Item}
  {items : List Item}

/-! ## The path of a file -/

private theorem Item.IsPossible.shortFile (h : item.IsPossible root) : IsShortName item.file :=
  h.short _ (by simp [Item.place])

private theorem Item.IsPossible.shortDirectory (h : item.IsPossible root) :
    ∀ name ∈ item.directory, IsShortName name :=
  fun name hname => h.short name (List.mem_append_left _ hname)

private theorem Item.IsPossible.named_file (h : item.IsPossible root) :
    ∀ name ∈ [item.file], name ≠ "" ∧ '/' ∉ name.toList := by
  intro name hname
  rw [List.mem_singleton.1 hname]
  exact h.shortFile.isPiece

/-- The name of a file is not absolute. -/
theorem Item.IsPossible.isAbsolute_file (h : item.IsPossible root) :
    Path.isAbsolute item.file = false := by
  have hlast := Path.isAbsolute_intercalate h.named_file
  rwa [String.intercalate_singleton] at hlast

/-- The path of a file leads to its place. -/
theorem Item.IsPossible.leadsTo (h : item.IsPossible root)
    (hroot : (Path.names root).foldlM files.follow (files.start root) = .ok base) :
    files.LeadsTo (item.goal root).path base item.place := by
  have hbelow : ∀ name ∈ item.directory, name ≠ "" ∧ '/' ∉ name.toList := fun name hname =>
    (h.shortDirectory name hname).isPiece
  have hrelative := Path.isAbsolute_intercalate hbelow
  have hfile : Path.names item.file = [item.file] := by
    have hlast := Path.names_intercalate h.named_file
    rwa [String.intercalate_singleton] at hlast
  refine ⟨h.noFault, Path.names root, ?_, ?_⟩
  · rw [Destination.path, Item.goal, Path.names_join _ h.isAbsolute_file,
      Path.names_join root hrelative,
      Path.names_intercalate hbelow, hfile, List.append_assoc, Item.place]
  · rw [start, Destination.path, Item.goal, Path.isAbsolute_join _ h.isAbsolute_file,
      Path.isAbsolute_join root hrelative]
    exact hroot

theorem Item.IsPossible.endsInSlash_path (h : item.IsPossible root) :
    Path.endsInSlash (item.goal root).path = false := by
  obtain ⟨between, hpath⟩ := Path.exists_join_eq
    (Path.join root (String.intercalate "/" item.directory)) h.isAbsolute_file
  have hne : item.file.toList ≠ [] := by simpa using h.shortFile.ne_empty
  have hlast : (item.goal root).path.toList.getLast? = item.file.toList.getLast? := by
    rw [Destination.path, Item.goal, hpath, String.toList_append,
      List.getLast?_append_of_ne_nil _ hne]
  rw [← Bool.not_eq_true, Path.endsInSlash, hlast, beq_iff_eq]
  exact fun hslash => h.shortFile.noSlash (List.mem_of_getLast? hslash)

/-- The directory of a file is a possible path unless it is empty. -/
private theorem Item.IsPossible.noFault_directory (h : item.IsPossible root)
    (hne : (item.goal root).directory ≠ "") :
    textFault? (item.goal root).directory = none := by
  obtain ⟨between, hpath⟩ := Path.exists_join_eq (item.goal root).directory h.isAbsolute_file
  refine textFault?_of_sublist h.noFault ?_ hne
  have htext : (item.goal root).path =
      (item.goal root).directory ++ between ++ item.file := hpath
  rw [htext, String.append_assoc, String.toList_append]
  exact List.sublist_append_left _ _

/-! ## One file -/

theorem writeBelow_eq (directory path : String) (contents : Bytes) (files : FileSystem) :
    writeBelow directory path contents files =
      match makeDirectories directoryMode directory files with
      | (.ok (), middle) => attempt (FileSystem.writeFile fileMode path contents) middle
      | (.error fault, middle) => (.error fault, middle) := by
  rcases hmake : makeDirectories directoryMode directory files with ⟨result, middle⟩
  rw [writeBelow]
  simp only [bind, StateT.bind, hmake]
  cases result <;> rfl

/-- What is there stays also when a file cannot be written. -/
theorem extends_writeBelow (directory path : String) (contents : Bytes) (files : FileSystem) :
    Extends files (writeBelow directory path contents files).2 := by
  have hmake := extends_makeDirectories directoryMode directory files
  rw [writeBelow_eq]
  split
  · next middle heq =>
      rw [heq] at hmake
      exact hmake.trans (extends_attempt fun _ hdone => extends_of_writeFile hdone)
  · next fault middle heq =>
      rw [heq] at hmake
      exact hmake

theorem writeAll_cons (goal : Destination) (body : Bytes) (others : List (Destination × Bytes))
    (files : FileSystem) :
    writeAll ((goal, body) :: others) files =
      match writeBelow goal.directory goal.path body files with
      | (.ok (), middle) => writeAll others middle
      | (.error fault, middle) => (.error fault, middle) := by
  rcases hwrite : writeBelow goal.directory goal.path body files with ⟨result, middle⟩
  rw [writeAll]
  simp only [bind, StateT.bind, hwrite]
  cases result <;> rfl

/-- Making the directories of a file makes none in its place. -/
private theorem not_isDirectoryAt_of_made {middle : FileSystem}
    (hmade : Made files middle base item.directory)
    (hend : ¬ files.IsDirectoryAt (base ++ item.place)) :
    ¬ middle.IsDirectoryAt (base ++ item.place) := by
  have hold : middle.at? (base ++ item.place) = files.at? (base ++ item.place) :=
    hmade.at?_concat item.file
  intro h
  obtain ⟨mode, hmode⟩ := h
  exact hend ⟨mode, hold ▸ hmode⟩

section

variable (hroot : (Path.names root).foldlM files.follow (files.start root) = .ok base)
  (hbase : files.IsDirectoryAt base) (hpossible : item.IsPossible root)
include hroot hbase hpossible

/-- A file is written where no directory lies, with its directories made, when no file is on the
way. -/
private theorem writeBelow_put
    (hfiles : ∀ front, front <+: item.directory → ¬ files.IsFileAt (base ++ front))
    (hend : ¬ files.IsDirectoryAt (base ++ item.place)) :
    ∃ middle kept, writeBelow (item.goal root).directory (item.goal root).path item.body files =
        (.ok (), middle.put (base ++ item.place) (.file kept item.body)) ∧
      Made files middle base item.directory := by
  obtain ⟨middle, hmake, hmade⟩ := makeDirectories_made hroot
    hpossible.shortDirectory directoryMode rfl hbase hpossible.noFault_directory hfiles
  have hleads : middle.LeadsTo (item.goal root).path base item.place :=
    (hpossible.leadsTo hroot).extends hmade.extension
  have hway : middle.Way base item.place := way_concat.2 ⟨hmade.way, hmade.isDirectoryAt⟩
  obtain ⟨kept, hwrite⟩ := writeFile_put fileMode item.body hleads
    hpossible.short hpossible.endsInSlash_path hway (not_isDirectoryAt_of_made hmade hend)
  refine ⟨middle, kept, ?_, hmade⟩
  have hmake' : makeDirectories directoryMode (item.goal root).directory files = (.ok (), middle) :=
    hmake
  rw [writeBelow_eq, hmake']
  simp only [attempt, hwrite]

omit hbase in
/-- After a file was written it lies there. -/
private theorem writeBelow_done
    (hdone : writeBelow (item.goal root).directory (item.goal root).path item.body files =
      (.ok (), after)) :
    after.Way base item.place ∧ after.IsFileAt (base ++ item.place) := by
  have hext := extends_makeDirectories directoryMode (item.goal root).directory files
  rw [writeBelow_eq] at hdone
  split at hdone
  · next middle heq =>
      rw [heq] at hext
      have hleads : middle.LeadsTo (item.goal root).path base item.place :=
        (hpossible.leadsTo hroot).extends hext
      unfold attempt at hdone
      split at hdone
      · next written hwritten =>
          cases hdone
          exact writeFile_done hleads hpossible.short hwritten
      · cases hdone
  · cases hdone

end

/-! ## What was written -/

/-- Below the root lies what was written, the newest first, and the directories on the way to it. -/
structure Holds (fresh files : FileSystem) (base : Location)
    (written : List (List String × Bytes)) : Prop where
  extension : Extends fresh files
  way : ∀ entry ∈ written, files.Way base entry.1
  contents : ∀ place body, written.lookup place = some body →
    ∃ mode, files.at? (base ++ place) = some (.file mode body)
  file : ∀ below, files.IsFileAt (base ++ below) → ∃ entry ∈ written, entry.1 = below
  directory : ∀ below, files.IsDirectoryAt (base ++ below) →
    below = [] ∨ ∃ entry ∈ written, below <+: entry.1 ∧ below ≠ entry.1

/-- What lies below the root when one more file was put at the end of its directories. -/
private theorem Holds.put {fresh middle : FileSystem} {written : List (List String × Bytes)}
    (h : Holds fresh files base written) (hmade : Made files middle base item.directory)
    (hend : ¬ files.IsDirectoryAt (base ++ item.place)) (kept : Nat) :
    Holds fresh (middle.put (base ++ item.place) (.file kept item.body)) base
      ((item.place, item.body) :: written) := by
  have hne : base ++ item.place ≠ [] := by simp [Item.place]
  have hput (other : Location) := at?_put middle hne other (.file kept item.body)
  have hext : Extends middle (middle.put (base ++ item.place) (.file kept item.body)) := by
    by_cases hfile : middle.IsFileAt (base ++ item.place)
    · exact extends_put_file hfile _ _
    · exact extends_put (at?_eq_none_of_not (not_isDirectoryAt_of_made hmade hend) hfile) _
  have hother {below : List String} (hbelow : below ≠ item.place) :
      (middle.put (base ++ item.place) (.file kept item.body)).at? (base ++ below) =
        middle.at? (base ++ below) := by
    rw [hput, if_neg fun heq => hbelow (List.append_cancel_left heq)]
  have hself : (middle.put (base ++ item.place) (.file kept item.body)).at? (base ++ item.place) =
      some (.file kept item.body) := by
    rw [hput, if_pos rfl]
  refine ⟨(h.extension.trans hmade.extension).trans hext, fun entry hentry => ?_,
    fun place body hlookup => ?_, fun below hfile => ?_, fun below hdirectory => ?_⟩
  · rcases List.mem_cons.1 hentry with rfl | hentry
    · exact hext.way (way_concat.2 ⟨hmade.way, hmade.isDirectoryAt⟩)
    · exact (hmade.extension.trans hext).way (h.way entry hentry)
  · by_cases hplace : place = item.place
    · subst hplace
      have hbody : item.body = body := by simpa using hlookup
      exact ⟨kept, hbody ▸ hself⟩
    · have hlookup' : written.lookup place = some body := by
        have hne : (place == item.place) = false := by simpa using hplace
        simpa [List.lookup_cons, hne] using hlookup
      obtain ⟨mode, hfile⟩ := h.contents place body hlookup'
      refine ⟨mode, ?_⟩
      rcases hmade.others (base ++ place) with hold | ⟨hnone, _⟩
      · rw [hother hplace, hold, hfile]
      · rw [hnone] at hfile
        cases hfile
  · by_cases hplace : below = item.place
    · exact ⟨_, List.mem_cons_self, hplace.symm⟩
    · obtain ⟨mode, contents, hfile⟩ := hfile
      rw [hother hplace] at hfile
      rcases hmade.others (base ++ below) with hold | ⟨_, hmadeDirectory, _⟩
      · obtain ⟨entry, hentry, heq⟩ := h.file below ⟨mode, contents, hold ▸ hfile⟩
        exact ⟨entry, List.mem_cons_of_mem _ hentry, heq⟩
      · exact absurd ⟨mode, contents, hfile⟩ (not_isFileAt_of_isDirectoryAt hmadeDirectory)
  · by_cases hplace : below = item.place
    · subst hplace
      exact absurd ⟨kept, item.body, hself⟩ (not_isFileAt_of_isDirectoryAt hdirectory)
    · obtain ⟨mode, hmode⟩ := hdirectory
      rw [hother hplace] at hmode
      rcases hmade.others (base ++ below) with hold | ⟨_, _, front, hfront, heq⟩
      · rcases h.directory below ⟨mode, hold ▸ hmode⟩ with hnil | ⟨entry, hentry, hprefix⟩
        · exact .inl hnil
        · exact .inr ⟨entry, List.mem_cons_of_mem _ hentry, hprefix⟩
      · have hbelow : below <+: item.place := by
          rw [List.append_cancel_left heq]
          exact hfront.trans (List.prefix_append _ _)
        exact .inr ⟨_, List.mem_cons_self, hbelow, hplace⟩

/-! ## All files -/

/-- No place is on the way to another. -/
def Apart (places : List (List String)) : Prop :=
  ∀ place ∈ places, ∀ other ∈ places, place <+: other → place = other

section

variable {fresh : FileSystem} {places : List (List String)}
  (hroot : (Path.names root).foldlM fresh.follow (fresh.start root) = .ok base)
  (hbase : fresh.IsDirectoryAt base) (hapart : Apart places)
include hroot hbase hapart

/-- One more file is written. -/
theorem Holds.writeBelow {written : List (List String × Bytes)}
    (h : Holds fresh files base written) (hpossible : item.IsPossible root)
    (hplace : item.place ∈ places) (hwritten : ∀ entry ∈ written, entry.1 ∈ places) :
    ∃ after, writeBelow (item.goal root).directory (item.goal root).path item.body files =
        (.ok (), after) ∧
      Holds fresh after base ((item.place, item.body) :: written) := by
  have hbase' := h.extension.directory hbase
  have hroot' : (Path.names root).foldlM files.follow (files.start root) = .ok base := by
    rw [start, h.extension.working]
    exact h.extension.foldlM_follow hroot
  have hfiles : ∀ front, front <+: item.directory → ¬ files.IsFileAt (base ++ front) := by
    intro front hfront hfile
    obtain ⟨entry, hentry, rfl⟩ := h.file front hfile
    have heq := hapart _ (hwritten entry hentry) _ hplace (hfront.trans (List.prefix_append _ _))
    have hle := hfront.length_le
    rw [heq, Item.place, List.length_append, List.length_singleton] at hle
    omega
  have hend : ¬ files.IsDirectoryAt (base ++ item.place) := by
    intro hdirectory
    rcases h.directory _ hdirectory with hnil | ⟨entry, hentry, hprefix, hne⟩
    · simp [Item.place] at hnil
    · exact hne (hapart _ hplace _ (hwritten entry hentry) hprefix)
  obtain ⟨middle, kept, hwrite, hmade⟩ := writeBelow_put hroot' hbase' hpossible hfiles hend
  exact ⟨_, hwrite, h.put hmade hend kept⟩

/-- All files are written. -/
theorem Holds.writeAll {written : List (List String × Bytes)} (h : Holds fresh files base written)
    (hitems : ∀ item ∈ items, item.IsPossible root ∧ item.place ∈ places)
    (hwritten : ∀ entry ∈ written, entry.1 ∈ places) :
    ∃ after, writeAll (items.map fun item => (item.goal root, item.body)) files = (.ok (), after) ∧
      Holds fresh after base
        ((items.map fun item => (item.place, item.body)).reverse ++ written) := by
  induction items generalizing files written with
  | nil => exact ⟨files, rfl, h⟩
  | cons item items ih =>
      obtain ⟨hpossible, hplace⟩ := hitems item List.mem_cons_self
      obtain ⟨middle, hwrite, hmiddle⟩ := h.writeBelow hroot hbase hapart hpossible hplace hwritten
      obtain ⟨after, hrest, hafter⟩ := ih hmiddle
        (fun other hother => hitems other (List.mem_cons_of_mem _ hother)) (by
          intro entry hentry
          rcases List.mem_cons.1 hentry with rfl | hentry
          · exact hplace
          · exact hwritten entry hentry)
      refine ⟨after, ?_, by simpa using hafter⟩
      rw [List.map_cons, writeAll_cons, hwrite]
      exact hrest

end

private theorem extends_writeAll (files : FileSystem) (goals : List (Destination × Bytes)) :
    Extends files (writeAll goals files).2 := by
  induction goals generalizing files with
  | nil => exact .refl _
  | cons goal goals ih =>
      obtain ⟨goal, body⟩ := goal
      have hfirst := extends_writeBelow goal.directory goal.path body files
      rw [writeAll_cons]
      split
      · next middle heq =>
          rw [heq] at hfirst
          exact hfirst.trans (ih middle)
      · next fault middle heq =>
          rw [heq] at hfirst
          exact hfirst

private theorem extends_results (root : String) (results : Keyed Bytes) (files : FileSystem) :
    Extends files (Save.results root results files).2 := by
  cases hgoals : destinations root results with
  | error e =>
      have hrefused : Save.results root results files = (.error e, files) := by
        rw [Save.results, hgoals]
        rfl
      rw [hrefused]
      exact .refl _
  | ok goals =>
      have hwritten : Save.results root results files =
          ((writeAll goals files).1.mapError .file, (writeAll goals files).2) := by
        rw [Save.results, hgoals]
        rfl
      rw [hwritten]
      exact extends_writeAll files goals

private theorem extends_warnings (path : String) (warnings : List String) (files : FileSystem) :
    Extends files (Save.warnings path warnings files).2 := by
  have hwritten := extends_writeBelow ((Path.parents path).headD "") path
    (Text.encodeString (String.intercalate "\n" warnings)) files
  unfold Save.warnings
  split
  · exact .refl _
  · rcases hwrite : writeBelow ((Path.parents path).headD "") path
      (Text.encodeString (String.intercalate "\n" warnings)) files with ⟨answer, after⟩
    rw [hwrite] at hwritten
    simp only [bind, StateT.bind, hwrite]
    exact hwritten

/-- Saving takes nothing away, also when it fails. -/
theorem extends_outcome (root warningsFile : String) (outcome : Outcome) (files : FileSystem) :
    Extends files (Save.outcome root warningsFile outcome files).2 := by
  have hresults := extends_results root outcome.results files
  rcases hsave : Save.results root outcome.results files with ⟨e | done, middle⟩
  · rw [hsave] at hresults
    simp only [Save.outcome, bind, StateT.bind, hsave]
    exact hresults
  · rw [hsave] at hresults
    simp only [Save.outcome, bind, StateT.bind, hsave]
    exact hresults.trans (extends_warnings warningsFile outcome.warnings middle)

/-- After all files were written they lie at their places, with directories on the way. -/
theorem writeAll_done (hroot : (Path.names root).foldlM files.follow (files.start root) = .ok base)
    (hitems : ∀ item ∈ items, item.IsPossible root)
    (hdone : writeAll (items.map fun item => (item.goal root, item.body)) files = (.ok (), after)) :
    ∀ item ∈ items, after.Way base item.place ∧ after.IsFileAt (base ++ item.place) := by
  induction items generalizing files with
  | nil => simp
  | cons first items ih =>
      have hfirst := extends_writeBelow (first.goal root).directory (first.goal root).path
        first.body files
      rw [List.map_cons, writeAll_cons] at hdone
      split at hdone
      · next middle heq =>
          rw [heq] at hfirst
          have hrest := extends_writeAll middle (items.map fun item => (item.goal root, item.body))
          rw [hdone] at hrest
          have hroot' : (Path.names root).foldlM middle.follow (middle.start root) = .ok base := by
            rw [start, hfirst.working]
            exact hfirst.foldlM_follow hroot
          obtain ⟨hway, hfile⟩ := writeBelow_done hroot (hitems first List.mem_cons_self) heq
          intro item hitem
          rcases List.mem_cons.1 hitem with rfl | hitem
          · exact ⟨hrest.way hway, hrest.file hfile⟩
          · exact ih hroot' (fun other hother => hitems other (List.mem_cons_of_mem _ hother)) hdone
              item hitem
      · cases hdone

/-- A file lies on the way to no other. -/
theorem apart_of_isFileAt {places : List (List String)}
    (h : ∀ place ∈ places, files.Way base place ∧ files.IsFileAt (base ++ place)) :
    Apart places := by
  intro place hplace other hother hprefix
  obtain ⟨rest, rfl⟩ := hprefix
  cases rest with
  | nil => simp
  | cons name rest =>
      have hdirectory : files.IsDirectoryAt (base ++ place) :=
        (h _ hother).1 place name (by simp)
      exact absurd (h place hplace).2 (not_isFileAt_of_isDirectoryAt hdirectory)

end ClusterEvidence.Save
