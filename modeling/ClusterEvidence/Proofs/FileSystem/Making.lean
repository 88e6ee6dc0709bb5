import ClusterEvidence.Proofs.FileSystem.Following

/-!
# Making directories and writing files

Making the directories of a path below a directory that is there succeeds as long as no file is in
the way, makes those that are missing, and changes nothing else (`Made`). A file can be written
wherever no directory lies and there are directories on the way. What an operation leaves behind
extends what was there, also when it fails.

## Main results

* `makeDirectories_made` — directories are made where no file is in the way.
* `writeFile_put`, `writeFile_done` — the same for a file.
-/

namespace ClusterEvidence.FileSystem

variable {files after : FileSystem} {base location : Location} {below : List String}
  {directory path root : String} {mode : Nat} {contents : Bytes}

/-! ## One directory -/

/-- A directory that was made is put where nothing lies. -/
private theorem exists_put_of_makeDirectory (h : files.makeDirectory mode path = .ok after) :
    ∃ location, files.locate path = .ok location ∧ files.at? location = none ∧
      after = files.put location (.directory mode) := by
  unfold makeDirectory at h
  cases hlocation : files.locate path with
  | error fault => simp [hlocation, bind, Except.bind] at h
  | ok location =>
      simp only [hlocation, bind, Except.bind] at h
      split at h
      · cases h
      · next hnone =>
          cases h
          exact ⟨location, rfl, hnone, rfl⟩

private theorem extends_of_ensureDirectory (h : files.ensureDirectory mode path = .ok after) :
    Extends files after := by
  unfold ensureDirectory at h
  split at h
  · next made hmake =>
      cases h
      obtain ⟨location, _, hnone, rfl⟩ := exists_put_of_makeDirectory hmake
      exact extends_put hnone _
  · split at h
    · cases h
      exact .refl _
    · cases h

/-- A missing directory is put at the end of the way. -/
private theorem LeadsTo.ensureDirectory_put (mode : Nat) (h : files.LeadsTo path base below)
    (hnames : ∀ name ∈ below, IsShortName name) (hway : files.Way base below)
    (hnone : files.at? (base ++ below) = none) :
    files.ensureDirectory mode path = .ok (files.put (base ++ below) (.directory mode)) := by
  have hlocation : files.locate path = .ok (base ++ below) := by
    rw [h.locate, (foldlM_follow_iff hnames).2 ⟨rfl, hway⟩]
  have hmake : files.makeDirectory mode path =
      .ok (files.put (base ++ below) (.directory mode)) := by
    rw [makeDirectory, hlocation]
    simp only [bind, Except.bind, hnone]
  rw [ensureDirectory, hmake]

/-- A directory that is there stays. -/
private theorem LeadsTo.ensureDirectory_self (mode : Nat) (h : files.LeadsTo path base below)
    (hnames : ∀ name ∈ below, IsShortName name) (hway : files.Way base below)
    (hend : files.IsDirectoryAt (base ++ below)) : files.ensureDirectory mode path = .ok files := by
  have hdirectory : files.isDirectory path = true := (h.isDirectory_iff hnames).2 ⟨hway, hend⟩
  have hlocation : files.locate path = .ok (base ++ below) := by
    rw [h.locate, (foldlM_follow_iff hnames).2 ⟨rfl, hway⟩]
  obtain ⟨mode', hmode'⟩ := hend
  have hmake : files.makeDirectory mode path = .error .alreadyExists := by
    rw [makeDirectory, hlocation]
    simp only [bind, Except.bind, hmode']
  rw [ensureDirectory, hmake]
  simp only [hdirectory, if_true]

/-- Without a directory on the way nothing can be put at its end. -/
private theorem LeadsTo.ensureDirectory_missing (mode : Nat) (h : files.LeadsTo path base below)
    (hnames : ∀ name ∈ below, IsShortName name)
    (hfiles : ∀ front, front <+: below → ¬ files.IsFileAt (base ++ front))
    (hway : ¬ files.Way base below) : files.ensureDirectory mode path = .error .noSuchFile := by
  have hdirectory : files.isDirectory path = false := by
    rw [← Bool.not_eq_true, h.isDirectory_iff hnames]
    exact fun hboth => hway hboth.1
  have hmake : files.makeDirectory mode path = .error .noSuchFile := by
    rw [makeDirectory, h.locate, foldlM_follow_of_not_way hnames hfiles hway]
    rfl
  rw [ensureDirectory, hmake]
  simp [hdirectory]

/-! ## Several directories -/

theorem extends_attempt {operation : FileSystem → Except FileFault FileSystem}
    (h : ∀ after, operation files = .ok after → Extends files after) :
    Extends files (attempt operation files).2 := by
  unfold attempt
  cases hresult : operation files with
  | error fault => exact .refl _
  | ok after => exact h after hresult

private theorem ensureFirst_cons (mode : Nat) (path : String) (parents : List String)
    (files : FileSystem) :
    ensureFirst mode (path :: parents) files =
      match attempt (ensureDirectory mode path) files with
      | (.error .noSuchFile, next) =>
          match ensureFirst mode parents next with
          | (.ok (), last) => attempt (ensureDirectory mode path) last
          | (.error fault, last) => (.error fault, last)
      | done => done := by
  rcases hattempt : attempt (ensureDirectory mode path) files with ⟨result, next⟩
  cases result with
  | ok done =>
      rw [ensureFirst]
      simp only [bind, StateT.bind, hattempt]
      rfl
  | error fault =>
      rcases hrest : ensureFirst mode parents next with ⟨result, last⟩
      rw [ensureFirst]
      cases fault with
      | noSuchFile =>
          simp only [bind, StateT.bind, hattempt, hrest]
          cases result <;> rfl
      | _ =>
          simp only [bind, StateT.bind, hattempt]
          rfl

private theorem extends_ensureFirst (mode : Nat) (paths : List String) (files : FileSystem) :
    Extends files (ensureFirst mode paths files).2 := by
  induction paths generalizing files with
  | nil => exact .refl _
  | cons path parents ih =>
      have hattempt (files : FileSystem) :
          Extends files (attempt (ensureDirectory mode path) files).2 :=
        extends_attempt fun _ hdone => extends_of_ensureDirectory hdone
      have hfirst := hattempt files
      rw [ensureFirst_cons]
      split
      · next next heq =>
          rw [heq] at hfirst
          have hrest := ih next
          split
          · next last hlast =>
              rw [hlast] at hrest
              exact (hfirst.trans hrest).trans (hattempt last)
          · next fault last hlast =>
              rw [hlast] at hrest
              exact hfirst.trans hrest
      · exact hfirst

theorem extends_makeDirectories (mode : Nat) (path : String) (files : FileSystem) :
    Extends files (makeDirectories mode path files).2 :=
  extends_ensureFirst mode _ files

/-- Directories were made along names, and nothing else was changed. -/
structure Made (before after : FileSystem) (base : Location) (below : List String) : Prop where
  extension : Extends before after
  way : after.Way base below
  isDirectoryAt : after.IsDirectoryAt (base ++ below)
  others : ∀ location, after.at? location = before.at? location ∨
    (before.at? location = none ∧ after.IsDirectoryAt location ∧
      ∃ front, front <+: below ∧ location = base ++ front)

theorem Made.refl (hway : files.Way base below) (hend : files.IsDirectoryAt (base ++ below)) :
    Made files files base below :=
  ⟨.refl _, hway, hend, fun _ => .inl rfl⟩

/-- Past the end of those directories nothing was changed. -/
theorem Made.at?_concat (h : Made files after base below) (name : String) :
    after.at? (base ++ (below ++ [name])) = files.at? (base ++ (below ++ [name])) := by
  rcases h.others (base ++ (below ++ [name])) with hold | ⟨_, _, front, hfront, heq⟩
  · exact hold
  · have hlength := congrArg List.length (List.append_cancel_left heq)
    have hle := hfront.length_le
    rw [List.length_append, List.length_singleton] at hlength
    omega

/-- One directory more is made at the end of those that were made. -/
private theorem Made.put {before middle : FileSystem} {name : String}
    (h : Made before middle base below) (hnone : middle.at? (base ++ (below ++ [name])) = none) :
    Made before (middle.put (base ++ (below ++ [name])) (.directory mode)) base
      (below ++ [name]) := by
  have hne := ne_nil_of_at?_eq_none hnone
  have hext := extends_put hnone (.directory mode)
  have hnew : (middle.put (base ++ (below ++ [name])) (.directory mode)).IsDirectoryAt
      (base ++ (below ++ [name])) := ⟨mode, by rw [at?_put _ hne, if_pos rfl]⟩
  refine ⟨h.extension.trans hext, ?_, hnew, fun location => ?_⟩
  · exact way_concat.2 ⟨hext.way h.way, hext.directory h.isDirectoryAt⟩
  · by_cases hlocation : location = base ++ (below ++ [name])
    · subst hlocation
      have hbefore : before.at? (base ++ (below ++ [name])) = none := by
        rcases h.others (base ++ (below ++ [name])) with hsame | ⟨hnone, _⟩
        · rw [← hsame, hnone]
        · exact hnone
      exact .inr ⟨hbefore, hnew, _, List.prefix_refl _, rfl⟩
    · have hsame := at?_put middle hne location (.directory mode)
      rw [if_neg hlocation] at hsame
      rcases h.others location with hold | ⟨hbefore, hmade, front, hfront, heq⟩
      · exact .inl (hsame.trans hold)
      · exact .inr ⟨hbefore, hext.directory hmade, front,
          hfront.trans (List.prefix_append _ _), heq⟩

/-- What is left to do when the directories on the way are there. -/
private theorem exists_ensureDirectory (mode : Nat) {before middle : FileSystem} {name : String}
    (hpath : middle.LeadsTo path base (below ++ [name]))
    (hnames : ∀ other ∈ below ++ [name], IsShortName other)
    (hmade : Made before middle base below)
    (hfile : ¬ before.IsFileAt (base ++ (below ++ [name]))) :
    ∃ after, attempt (ensureDirectory mode path) middle = (.ok (), after) ∧
      Made before after base (below ++ [name]) := by
  have hway : middle.Way base (below ++ [name]) := way_concat.2 ⟨hmade.way, hmade.isDirectoryAt⟩
  by_cases hend : middle.IsDirectoryAt (base ++ (below ++ [name]))
  · have hensure := hpath.ensureDirectory_self mode hnames hway hend
    refine ⟨middle, by rw [attempt, hensure], hmade.extension, hway, hend, fun location => ?_⟩
    rcases hmade.others location with hold | ⟨hnone, hdirectory, front, hfront, heq⟩
    · exact .inl hold
    · exact .inr ⟨hnone, hdirectory, front, hfront.trans (List.prefix_append _ _), heq⟩
  · have hfile' : ¬ middle.IsFileAt (base ++ (below ++ [name])) := by
      rintro ⟨mode', contents', hentry⟩
      rcases hmade.others (base ++ (below ++ [name])) with hold | ⟨_, hdirectory, _⟩
      · exact hfile ⟨mode', contents', hold ▸ hentry⟩
      · exact hend hdirectory
    have hnone := at?_eq_none_of_not hend hfile'
    have hensure := hpath.ensureDirectory_put mode hnames hway hnone
    exact ⟨_, by rw [attempt, hensure], hmade.put hnone⟩

/-- Of a path and its ancestors the first is ensured by making those that are missing. The names in
front of those below the base lead to it. -/
private theorem ensureFirst_made {absolute : Bool} {front : List String}
    (hstart : front.foldlM files.follow (if absolute then [] else files.working) = .ok base)
    (hfront : ∀ step ∈ front, step ≠ "" ∧ '/' ∉ step.toList)
    (hbase : files.IsDirectoryAt base) (hnames : ∀ name ∈ below, IsShortName name)
    (htexts : ∀ some, some <+: below → Path.ofSteps absolute (front ++ some) ≠ "" →
      textFault? (Path.ofSteps absolute (front ++ some)) = none)
    (hfiles : ∀ some, some <+: below → ¬ files.IsFileAt (base ++ some))
    (hpath : files.LeadsTo path base below) :
    ∃ after, ensureFirst mode (path :: Path.ancestors absolute (front ++ below)) files =
      (.ok (), after) ∧ Made files after base below := by
  induction below using List.reverseRecOn generalizing path with
  | nil =>
      have hend : files.IsDirectoryAt (base ++ []) := by rwa [List.append_nil]
      have hensure := hpath.ensureDirectory_self mode hnames way_nil hend
      refine ⟨files, ?_, .refl way_nil hend⟩
      rw [ensureFirst_cons, attempt, hensure]
  | append_singleton below name ih =>
      have hshorter {some : List String} (h : some <+: below) : some <+: below ++ [name] :=
        h.trans (List.prefix_append _ _)
      have hnames' : ∀ other ∈ below, IsShortName other := fun other hother =>
        hnames other (List.mem_append_left _ hother)
      have hfile := hfiles _ (List.prefix_refl _)
      by_cases hway : files.Way base (below ++ [name])
      · obtain ⟨hway', hend⟩ := way_concat.1 hway
        obtain ⟨after, hattempt, hmade⟩ :=
          exists_ensureDirectory mode hpath hnames (.refl hway' hend) hfile
        exact ⟨after, by rw [ensureFirst_cons, hattempt], hmade⟩
      · have hensure := hpath.ensureDirectory_missing mode hnames hfiles hway
        have hattempt : attempt (ensureDirectory mode path) files =
            (.error .noSuchFile, files) := by
          rw [attempt, hensure]
        have hsteps : ∀ step ∈ front ++ below, step ≠ "" ∧ '/' ∉ step.toList := by
          intro step hstep
          rcases List.mem_append.1 hstep with hstep | hstep
          · exact hfront step hstep
          · exact (hnames' step hstep).isPiece
        -- The base itself is there, so that its path is not the one that is missing.
        have hparent : Path.ofSteps absolute (front ++ below) ≠ "" := by
          intro hempty
          have hnil := Path.names_ofSteps absolute hsteps
          rw [hempty, Path.names_empty] at hnil
          obtain ⟨_, rfl⟩ := List.append_eq_nil_iff.1 hnil.symm
          exact hway (way_concat.2 ⟨way_nil, by rwa [List.append_nil]⟩)
        have hleads : files.LeadsTo (Path.ofSteps absolute (front ++ below)) base below := by
          refine ⟨htexts below (hshorter (List.prefix_refl _)) hparent, front,
            Path.names_ofSteps absolute hsteps, ?_⟩
          rw [start, Path.isAbsolute_ofSteps hsteps]
          exact hstart
        obtain ⟨middle, hrest, hmade⟩ := ih hnames' (fun some h => htexts some (hshorter h))
          (fun some h => hfiles some (hshorter h)) hleads
        obtain ⟨after, hlast, hmade'⟩ := exists_ensureDirectory mode
          (hpath.extends hmade.extension) hnames hmade hfile
        refine ⟨after, ?_, hmade'⟩
        rw [ensureFirst_cons, hattempt, ← List.append_assoc, Path.ancestors_concat name hparent]
        simp only [hrest, hlast]

/-! ## The directories of a path -/

private theorem byteLength_le_of_sublist {shorter longer : List Char} (h : shorter.Sublist longer) :
    Text.byteLength shorter ≤ Text.byteLength longer := by
  induction h with
  | slnil => exact Nat.le_refl _
  | cons c _ ih => exact Nat.le_trans ih (by simp)
  | cons_cons c _ ih => simpa using ih

/-- A text that is part of that of a path has no other fault than to be empty. -/
theorem textFault?_of_sublist {shorter : String} (h : textFault? path = none)
    (hsub : shorter.toList.Sublist path.toList) (hne : shorter ≠ "") :
    textFault? shorter = none := by
  have hlength := byteLength_le_of_sublist hsub
  unfold textFault? at h ⊢
  by_cases hnul : path.toList.contains '\x00' = true
  · rw [if_pos hnul] at h
    cases h
  · have hnul' : ¬ shorter.toList.contains '\x00' = true := by
      rw [List.contains_iff_mem] at hnul ⊢
      exact fun hmem => hnul (hsub.subset hmem)
    rw [if_neg hnul] at h
    by_cases hempty : path = ""
    · simp [hempty] at h
    · rw [if_neg hempty] at h
      have hlimit : ¬ pathLimit ≤ Text.byteLength path.toList := fun hle => by simp [hle] at h
      rw [if_neg hnul', if_neg hne, if_neg (by omega)]

/-- The steps of a path lead where its names lead. -/
private theorem foldlM_follow_steps
    (h : (Path.names path).foldlM files.follow location = .ok base) :
    (Path.steps path).foldlM files.follow location = .ok base := by
  have hsegments : (Path.segments path).foldlM files.follow location = .ok base :=
    foldlM_follow_filter h
  rw [Path.steps]
  split
  · next hhead =>
      obtain ⟨rest, hrest⟩ := List.head?_eq_some_iff.1 hhead
      have hnames : Path.names path = "." :: rest.filter (· != "") := by simp [Path.names, hrest]
      rw [hnames, List.foldlM_cons] at h
      rw [List.foldlM_cons]
      cases hhere : files.follow location "." with
      | error fault => simp [hhere, bind, Except.bind] at h
      | ok next =>
          have hnext := follow_here hhere
          simp only [bind, Except.bind, hnext]
          exact hsegments
  · exact hsegments

section

variable (hroot : (Path.names root).foldlM files.follow (files.start root) = .ok base)
  (hnames : ∀ name ∈ below, IsShortName name)
include hroot hnames

/-- A path below a root leads to where the root leads and from there along its names. -/
private theorem leadsTo_join
    (hfault : textFault? (Path.join root (String.intercalate "/" below)) = none) :
    files.LeadsTo (Path.join root (String.intercalate "/" below)) base below := by
  have hbelow : ∀ name ∈ below, name ≠ "" ∧ '/' ∉ name.toList := fun name hname =>
    (hnames name hname).isPiece
  have hrelative := Path.isAbsolute_intercalate hbelow
  refine ⟨hfault, Path.names root, ?_, ?_⟩
  · rw [Path.names_join root hrelative, Path.names_intercalate hbelow]
  · rw [start, Path.isAbsolute_join root hrelative]
    exact hroot

/-- Directories are made where no file is in the way. -/
theorem makeDirectories_made (mode : Nat)
    (hdirectory : directory = Path.join root (String.intercalate "/" below))
    (hbase : files.IsDirectoryAt base)
    (hfault : directory ≠ "" → textFault? directory = none)
    (hfiles : ∀ some, some <+: below → ¬ files.IsFileAt (base ++ some)) :
    ∃ after, makeDirectories mode directory files = (.ok (), after) ∧
      Made files after base below := by
  have hbelow : ∀ name ∈ below, name ≠ "" ∧ '/' ∉ name.toList := fun name hname =>
    (hnames name hname).isPiece
  have hrelative := Path.isAbsolute_intercalate hbelow
  by_cases hempty : directory = ""
  · -- An empty path is that of the working directory, and nothing is below it.
    have hnil : below = [] := by
      have hnamesOf := Path.names_join root hrelative
      rw [← hdirectory, hempty, Path.names_empty, Path.names_intercalate hbelow] at hnamesOf
      exact (List.append_eq_nil_iff.1 hnamesOf.symm).2
    refine ⟨files, ?_, .refl (hnil ▸ way_nil) (by rw [hnil, List.append_nil]; exact hbase)⟩
    rw [makeDirectories, if_pos hempty]
    rfl
  · have hpath : files.LeadsTo directory base below := by
      rw [hdirectory]
      exact leadsTo_join hroot hnames (hdirectory ▸ hfault hempty)
    have hsteps : Path.steps directory = Path.steps root ++ below := by
      rw [hdirectory]
      exact Path.steps_join fun name hname => (hnames name hname).toIsEntryName
    have habsolute : Path.isAbsolute directory = Path.isAbsolute root := by
      rw [hdirectory]
      exact Path.isAbsolute_join root hrelative
    have htexts : ∀ some, some <+: below →
        Path.ofSteps (Path.isAbsolute root) (Path.steps root ++ some) ≠ "" →
        textFault? (Path.ofSteps (Path.isAbsolute root) (Path.steps root ++ some)) = none := by
      intro some hsome hne
      have hsub : (Path.steps root ++ some).Sublist (Path.steps directory) := by
        rw [hsteps]
        exact List.Sublist.append_left hsome.sublist _
      have htext := Path.ofSteps_sublist hsub
      rw [habsolute] at htext
      exact textFault?_of_sublist (hfault hempty) htext hne
    rw [makeDirectories, if_neg hempty, Path.parents_eq, hsteps, habsolute]
    exact ensureFirst_made (foldlM_follow_steps hroot)
      (fun step hstep => Path.noSlash_of_mem_steps hstep) hbase hnames htexts hfiles hpath

end

/-! ## Files -/

/-- A file is put at the end of the way, unless a directory lies there. -/
theorem writeFile_put (mode : Nat) (contents : Bytes) (h : files.LeadsTo path base below)
    (hnames : ∀ name ∈ below, IsShortName name) (hslash : Path.endsInSlash path = false)
    (hway : files.Way base below) (hend : ¬ files.IsDirectoryAt (base ++ below)) :
    ∃ kept, files.writeFile mode path contents =
      .ok (files.put (base ++ below) (.file kept contents)) := by
  have hlocation : files.locate path = .ok (base ++ below) := by
    rw [h.locate, (foldlM_follow_iff hnames).2 ⟨rfl, hway⟩]
  rw [writeFile, hslash]
  simp only [Bool.false_eq_true, if_false, hlocation, bind, Except.bind]
  cases hentry : files.at? (base ++ below) with
  | none => exact ⟨mode, rfl⟩
  | some entry =>
      cases entry with
      | directory mode' => exact absurd ⟨mode', hentry⟩ hend
      | file mode' contents' => exact ⟨mode', rfl⟩

/-- A file that was written lies where nothing or a file lay. -/
private theorem exists_put_of_writeFile (h : files.writeFile mode path contents = .ok after) :
    ∃ location kept, files.locate path = .ok location ∧ location ≠ [] ∧
      (files.at? location = none ∨ files.IsFileAt location) ∧
      after = files.put location (.file kept contents) := by
  unfold writeFile at h
  split at h
  · cases hall : files.followAll path ((Path.names path).dropLast ++ ["."]) with
    | error fault => simp [hall, bind, Except.bind] at h
    | ok location => simp [hall, bind, Except.bind] at h
  · cases hlocation : files.locate path with
    | error fault => simp [hlocation, bind, Except.bind] at h
    | ok location =>
        simp only [hlocation, bind, Except.bind] at h
        split at h
        · cases h
        · next mode' contents' hentry =>
            cases h
            refine ⟨location, mode', rfl, ?_, .inr ⟨mode', contents', hentry⟩, rfl⟩
            rintro rfl
            simp [at?] at hentry
        · next hnone =>
            cases h
            exact ⟨location, mode, rfl, ne_nil_of_at?_eq_none hnone, .inl hnone, rfl⟩

theorem extends_of_writeFile (h : files.writeFile mode path contents = .ok after) :
    Extends files after := by
  obtain ⟨location, kept, _, _, hnone | hfile, rfl⟩ := exists_put_of_writeFile h
  · exact extends_put hnone _
  · exact extends_put_file hfile _ _

/-- A file that was written is there, with directories on the way. -/
theorem writeFile_done (h : files.LeadsTo path base below)
    (hnames : ∀ name ∈ below, IsShortName name)
    (hdone : files.writeFile mode path contents = .ok after) :
    after.Way base below ∧ after.IsFileAt (base ++ below) := by
  have hext := extends_of_writeFile hdone
  obtain ⟨location, kept, hlocation, hne, _, rfl⟩ := exists_put_of_writeFile hdone
  rw [h.locate, foldlM_follow_iff hnames] at hlocation
  obtain ⟨rfl, hway⟩ := hlocation
  exact ⟨hext.way hway, kept, contents, by rw [at?_put _ hne, if_pos rfl]⟩

end ClusterEvidence.FileSystem
