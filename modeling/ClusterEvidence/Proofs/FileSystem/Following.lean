import ClusterEvidence.FileSystem.Basic
import ClusterEvidence.Proofs.FileSystem.Path
import Mathlib.Data.List.Induction

/-!
# Following a path below a directory

Below a directory that a path leads to, names are followed as long as there are directories on the
way (`Way`). What a path leads to depends on nothing else, and it stays when more is put into the
file system (`Extends`).

## Main results

* `foldlM_follow_iff` — names are followed to the end exactly when there are directories on the way.
* `LeadsTo.isDirectory_iff` — a path leads to a directory exactly when there are directories on the
  way and one at its end.
-/

namespace ClusterEvidence.FileSystem

variable {files before after : FileSystem} {base location : Location} {below : List String}
  {name path : String}

/-! ## What lies at a location -/

/-- A directory lies at a location. -/
def IsDirectoryAt (files : FileSystem) (location : Location) : Prop :=
  ∃ mode, files.at? location = some (.directory mode)

/-- A file lies at a location. -/
def IsFileAt (files : FileSystem) (location : Location) : Prop :=
  ∃ mode contents, files.at? location = some (.file mode contents)

theorem not_isFileAt_of_isDirectoryAt (h : files.IsDirectoryAt location) :
    ¬ files.IsFileAt location := by
  rintro ⟨mode, contents, hfile⟩
  obtain ⟨mode', hdirectory⟩ := h
  rw [hdirectory] at hfile
  cases hfile

/-- Nothing lies where neither a directory nor a file does. -/
theorem at?_eq_none_of_not (hdirectory : ¬ files.IsDirectoryAt location)
    (hfile : ¬ files.IsFileAt location) : files.at? location = none := by
  cases hentry : files.at? location with
  | none => rfl
  | some entry =>
      cases entry with
      | directory mode => exact absurd ⟨mode, hentry⟩ hdirectory
      | file mode contents => exact absurd ⟨mode, contents, hentry⟩ hfile

/-- The root is there. -/
theorem ne_nil_of_at?_eq_none (h : files.at? location = none) : location ≠ [] := by
  rintro rfl
  simp [at?] at h

/-! ## File systems in which more lies -/

/-- Directories stay as they are, and where a file lies a file stays. -/
structure Extends (before after : FileSystem) : Prop where
  working : after.working = before.working
  directory : ∀ {location}, before.IsDirectoryAt location → after.IsDirectoryAt location
  file : ∀ {location}, before.IsFileAt location → after.IsFileAt location

theorem Extends.refl (files : FileSystem) : Extends files files := ⟨rfl, id, id⟩

theorem Extends.trans {last : FileSystem} (h : Extends before after) (h' : Extends after last) :
    Extends before last :=
  ⟨h'.working.trans h.working, h'.directory ∘ h.directory, h'.file ∘ h.file⟩

/-- An entry may be put where nothing lies. -/
theorem extends_put (h : files.at? location = none) (entry : Entry) :
    Extends files (files.put location entry) := by
  have hput (other : Location) := at?_put files (ne_nil_of_at?_eq_none h) other entry
  have hkeep {other : Location} {found : Entry} (hfound : files.at? other = some found) :
      (files.put location entry).at? other = some found := by
    have hne : other ≠ location := by
      rintro rfl
      rw [h] at hfound
      cases hfound
    rw [hput, if_neg hne, hfound]
  exact ⟨rfl, fun ⟨mode, hmode⟩ => ⟨mode, hkeep hmode⟩,
    fun ⟨mode, contents, hfile⟩ => ⟨mode, contents, hkeep hfile⟩⟩

/-- A file may be put where a file lies. -/
theorem extends_put_file (h : files.IsFileAt location) (mode : Nat) (contents : Bytes) :
    Extends files (files.put location (.file mode contents)) := by
  have hne : location ≠ [] := by
    rintro rfl
    obtain ⟨_, _, hroot⟩ := h
    simp [at?] at hroot
  have hput (other : Location) := at?_put files hne other (.file mode contents)
  refine ⟨rfl, fun {other} hother => ?_, fun {other} hother => ?_⟩
  · have hother' : other ≠ location := by
      rintro rfl
      exact not_isFileAt_of_isDirectoryAt hother h
    obtain ⟨mode', hmode⟩ := hother
    exact ⟨mode', by rw [hput, if_neg hother', hmode]⟩
  · by_cases heq : other = location
    · exact ⟨mode, contents, by rw [hput, if_pos heq]⟩
    · obtain ⟨mode', contents', hfile⟩ := hother
      exact ⟨mode', contents', by rw [hput, if_neg heq, hfile]⟩

/-! ## One name -/

/-- An entry name that is not too long for the file system. -/
structure IsShortName (name : String) : Prop extends Path.IsEntryName name where
  short : Text.byteLength name.toList ≤ nameLimit

private theorem follow_of_isDirectoryAt (h : files.IsDirectoryAt location)
    (hname : IsShortName name) :
    files.follow location name = .ok (location ++ [name]) := by
  obtain ⟨mode, hmode⟩ := h
  rw [follow, hmode]
  simp only [hname.ne_here, hname.ne_up, if_false]
  rw [if_neg (Nat.not_lt.2 hname.short)]

private theorem follow_of_at?_eq_none (h : files.at? location = none) (name : String) :
    files.follow location name = .error .noSuchFile := by
  rw [follow, h]

/-- Names are followed from directories only. -/
theorem isDirectoryAt_of_follow {next : Location} (h : files.follow location name = .ok next) :
    files.IsDirectoryAt location := by
  unfold follow at h
  split at h
  · cases h
  · cases h
  · next mode hmode => exact ⟨mode, hmode⟩

theorem follow_here {next : Location} (h : files.follow location "." = .ok next) :
    next = location := by
  obtain ⟨mode, hmode⟩ := isDirectoryAt_of_follow h
  rw [follow, hmode] at h
  simpa using h.symm

/-- What was followed is followed where more lies. -/
private theorem Extends.follow (hext : Extends before after) {next : Location}
    (h : before.follow location name = .ok next) : after.follow location name = .ok next := by
  have hbefore := isDirectoryAt_of_follow h
  obtain ⟨mode, hmode⟩ := hbefore
  obtain ⟨mode', hmode'⟩ := hext.directory ⟨mode, hmode⟩
  rw [FileSystem.follow, hmode] at h
  rw [FileSystem.follow, hmode']
  exact h

/-! ## Several names -/

theorem Extends.foldlM_follow (hext : Extends before after) {names : List String}
    {next : Location} (h : names.foldlM before.follow location = .ok next) :
    names.foldlM after.follow location = .ok next := by
  induction names generalizing location with
  | nil => exact h
  | cons name names ih =>
      rw [List.foldlM_cons] at h ⊢
      cases hfirst : before.follow location name with
      | error fault => simp [hfirst, bind, Except.bind] at h
      | ok middle =>
          simp only [hfirst, bind, Except.bind] at h
          simp only [hext.follow hfirst, bind, Except.bind]
          exact ih h

/-- The names that stay where they are can be left out. -/
theorem foldlM_follow_filter {names : List String} {next : Location}
    (h : names.foldlM files.follow location = .ok next) :
    (names.filter (· != ".")).foldlM files.follow location = .ok next := by
  induction names generalizing location with
  | nil => exact h
  | cons name names ih =>
      rw [List.foldlM_cons] at h
      cases hfirst : files.follow location name with
      | error fault => simp [hfirst, bind, Except.bind] at h
      | ok middle =>
          simp only [hfirst, bind, Except.bind] at h
          by_cases hname : name = "."
          · have hmiddle : middle = location := by
              subst hname
              exact follow_here hfirst
            rw [List.filter_cons_of_neg (by simpa using hname)]
            exact ih (hmiddle ▸ h)
          · rw [List.filter_cons_of_pos (by simpa using hname), List.foldlM_cons]
            simp only [hfirst, bind, Except.bind]
            exact ih h

/-- There are directories on the way from a location along names: every name is followed from
one. -/
def Way (files : FileSystem) (base : Location) (below : List String) : Prop :=
  ∀ front name, front ++ [name] <+: below → files.IsDirectoryAt (base ++ front)

theorem way_nil : files.Way base [] := fun front name h => by simp at h

theorem way_concat : files.Way base (below ++ [name]) ↔
    files.Way base below ∧ files.IsDirectoryAt (base ++ below) := by
  constructor
  · intro h
    exact ⟨fun front other hfront => h front other (hfront.trans (List.prefix_append _ _)),
      h below name (List.prefix_refl _)⟩
  · rintro ⟨hway, hend⟩ front other hfront
    rcases List.prefix_concat_iff.1 hfront with heq | hfront
    · obtain ⟨rfl, _⟩ := List.append_inj' heq rfl
      exact hend
    · exact hway front other hfront

theorem Extends.way (hext : Extends before after) (h : before.Way base below) :
    after.Way base below :=
  fun front name hfront => hext.directory (h front name hfront)

/-- Names are followed to the end exactly when there are directories on the way. -/
theorem foldlM_follow_iff (hnames : ∀ name ∈ below, IsShortName name) :
    below.foldlM files.follow base = .ok location ↔
      location = base ++ below ∧ files.Way base below := by
  induction below using List.reverseRecOn generalizing location with
  | nil =>
      rw [List.append_nil, eq_comm (a := location)]
      simp [way_nil, pure, Except.pure]
  | append_singleton below name ih =>
      have hname : IsShortName name := hnames name (by simp)
      have ih (location : Location) : below.foldlM files.follow base = .ok location ↔
          location = base ++ below ∧ files.Way base below :=
        ih fun other hother => hnames other (List.mem_append_left _ hother)
      rw [List.foldlM_append, way_concat]
      by_cases hway : files.Way base below
      · have hfront := (ih (base ++ below)).2 ⟨rfl, hway⟩
        simp only [hfront, List.foldlM_cons, List.foldlM_nil, bind, Except.bind]
        constructor
        · intro h
          cases hlast : files.follow (base ++ below) name with
          | error fault => simp [hlast] at h
          | ok next =>
              have hend := isDirectoryAt_of_follow hlast
              rw [follow_of_isDirectoryAt hend hname, Except.ok.injEq] at hlast
              rw [follow_of_isDirectoryAt hend hname] at h
              simp only [pure, Except.pure, Except.ok.injEq] at h
              exact ⟨by simp [← h], hway, hend⟩
        · rintro ⟨rfl, _, hend⟩
          rw [follow_of_isDirectoryAt hend hname]
          simp [pure, Except.pure]
      · have hnot : ∀ location, below.foldlM files.follow base ≠ .ok location :=
          fun location h => hway ((ih location).1 h).2
        constructor
        · intro h
          cases hfront : below.foldlM files.follow base with
          | error fault => simp [hfront, bind, Except.bind] at h
          | ok middle => exact absurd hfront (hnot middle)
        · rintro ⟨_, h, _⟩
          exact absurd h hway

/-- Where a directory on the way is missing, and no file is in its place, the first name that cannot
be followed has nothing to be followed from. -/
theorem foldlM_follow_of_not_way (hnames : ∀ name ∈ below, IsShortName name)
    (hfiles : ∀ front, front <+: below → ¬ files.IsFileAt (base ++ front))
    (hway : ¬ files.Way base below) :
    below.foldlM files.follow base = .error .noSuchFile := by
  induction below using List.reverseRecOn with
  | nil => exact absurd way_nil hway
  | append_singleton below name ih =>
      have hshorter {front : List String} (h : front <+: below) : front <+: below ++ [name] :=
        h.trans (List.prefix_append _ _)
      have hnames' : ∀ other ∈ below, IsShortName other := fun other hother =>
        hnames other (List.mem_append_left _ hother)
      rw [List.foldlM_append]
      by_cases hfront : files.Way base below
      · have hend : ¬ files.IsDirectoryAt (base ++ below) := fun h =>
          hway (way_concat.2 ⟨hfront, h⟩)
        have hnone : files.at? (base ++ below) = none :=
          at?_eq_none_of_not hend (hfiles below (hshorter (List.prefix_refl _)))
        have hfollow := (foldlM_follow_iff hnames').2 ⟨rfl, hfront⟩
        simp only [hfollow, List.foldlM_cons, bind, Except.bind, follow_of_at?_eq_none hnone]
      · have hfollow := ih hnames' (fun front h => hfiles front (hshorter h)) hfront
        simp only [hfollow, bind, Except.bind]

/-! ## Paths -/

/-- Where a path starts. -/
def start (files : FileSystem) (path : String) : Location :=
  if Path.isAbsolute path then [] else files.working

/-- A path leads to a location and from there along names. -/
structure LeadsTo (files : FileSystem) (path : String) (base : Location) (below : List String) :
    Prop where
  noFault : textFault? path = none
  names : ∃ front, Path.names path = front ++ below ∧
    front.foldlM files.follow (files.start path) = .ok base

theorem LeadsTo.extends (hext : Extends before after) (h : before.LeadsTo path base below) :
    after.LeadsTo path base below := by
  obtain ⟨hfault, front, hnames, hfront⟩ := h
  have hstart : after.start path = before.start path := by rw [start, start, hext.working]
  exact ⟨hfault, front, hnames, hstart ▸ hext.foldlM_follow hfront⟩

theorem LeadsTo.followAll (h : files.LeadsTo path base below) (more : List String) :
    files.followAll path (Path.names path ++ more) = (below ++ more).foldlM files.follow base := by
  obtain ⟨hfault, front, hnames, hfront⟩ := h
  rw [start] at hfront
  rw [FileSystem.followAll, hfault, hnames, List.append_assoc, List.foldlM_append, hfront]
  rfl

theorem LeadsTo.locate (h : files.LeadsTo path base below) :
    files.locate path = below.foldlM files.follow base := by
  have hall := h.followAll []
  rwa [List.append_nil, List.append_nil] at hall

/-- What a path leads to when there are directories on the way; a slash at its end asks for another
one. -/
private theorem LeadsTo.lookUp (h : files.LeadsTo path base below)
    (hnames : ∀ name ∈ below, IsShortName name) (hway : files.Way base below) {entry : Entry}
    (hentry : files.at? (base ++ below) = some entry)
    (hslash : Path.endsInSlash path = true → files.IsDirectoryAt (base ++ below)) :
    files.lookUp path = .ok entry := by
  have hfollow := (foldlM_follow_iff hnames).2 ⟨rfl, hway⟩
  have hlocation : files.followAll path
      (if Path.endsInSlash path then Path.names path ++ ["."] else Path.names path) =
        .ok (base ++ below) := by
    by_cases hend : Path.endsInSlash path = true
    · obtain ⟨mode, hmode⟩ := hslash hend
      rw [if_pos hend, h.followAll, List.foldlM_append, hfollow]
      simp [bind, Except.bind, FileSystem.follow, hmode, pure, Except.pure]
    · have hall := h.followAll []
      rw [List.append_nil, List.append_nil, hfollow] at hall
      rw [if_neg hend, hall]
  rw [FileSystem.lookUp, hlocation]
  simp only [bind, Except.bind, hentry]

/-- The contents of a file at the end of the way. -/
theorem LeadsTo.readFile (h : files.LeadsTo path base below)
    (hnames : ∀ name ∈ below, IsShortName name) (hslash : Path.endsInSlash path = false)
    (hway : files.Way base below) {mode : Nat} {contents : Bytes}
    (hfile : files.at? (base ++ below) = some (.file mode contents)) :
    files.readFile path = .ok contents := by
  have hlookUp := h.lookUp hnames hway hfile fun hend => absurd hend (by simp [hslash])
  rw [FileSystem.readFile, hlookUp]
  rfl

/-- A path leads to a directory exactly when there are directories on the way and one at its end. -/
theorem LeadsTo.isDirectory_iff (h : files.LeadsTo path base below)
    (hnames : ∀ name ∈ below, IsShortName name) :
    files.isDirectory path = true ↔
      files.Way base below ∧ files.IsDirectoryAt (base ++ below) := by
  constructor
  · intro hdirectory
    -- Whatever stands behind the names, they have been followed.
    have hmore : ∀ more, (∀ name ∈ more, name = ".") → ∀ location,
        files.followAll path (Path.names path ++ more) = .ok location →
        files.Way base below ∧ location = base ++ below := by
      intro more hall location hlocation
      rw [h.followAll] at hlocation
      have hfilter := foldlM_follow_filter hlocation
      have hbelow : (below ++ more).filter (· != ".") = below := by
        have hdots : more.filter (· != ".") = [] := List.filter_eq_nil_iff.2 (by simpa using hall)
        rw [List.filter_append, hdots, List.append_nil]
        exact List.filter_eq_self.2 fun name hname => by simpa using (hnames name hname).ne_here
      rw [hbelow] at hfilter
      exact ((foldlM_follow_iff hnames).1 hfilter).symm
    have hlookUp : ∃ mode, files.lookUp path = .ok (.directory mode) := by
      unfold isDirectory at hdirectory
      split at hdirectory
      · next mode hmode => exact ⟨mode, hmode⟩
      · cases hdirectory
    obtain ⟨mode, hmode⟩ := hlookUp
    obtain ⟨more, hall, hpath⟩ : ∃ more : List String, (∀ name ∈ more, name = ".") ∧
        (if Path.endsInSlash path then Path.names path ++ ["."] else Path.names path) =
          Path.names path ++ more := by
      by_cases hend : Path.endsInSlash path = true
      · exact ⟨["."], by simp, by rw [if_pos hend]⟩
      · exact ⟨[], by simp, by rw [if_neg hend, List.append_nil]⟩
    rw [FileSystem.lookUp, hpath] at hmode
    cases hlocation : files.followAll path (Path.names path ++ more) with
    | error fault => simp [hlocation, bind, Except.bind] at hmode
    | ok location =>
        obtain ⟨hway, rfl⟩ := hmore more hall location hlocation
        simp only [hlocation, bind, Except.bind] at hmode
        cases hentry : files.at? (base ++ below) with
        | none => simp [hentry] at hmode
        | some entry =>
            simp only [hentry, Except.ok.injEq] at hmode
            exact ⟨hway, mode, by rw [hentry, hmode]⟩
  · rintro ⟨hway, mode, hmode⟩
    have hlookUp := h.lookUp hnames hway hmode fun _ => ⟨mode, hmode⟩
    rw [isDirectory, hlookUp]

end ClusterEvidence.FileSystem
