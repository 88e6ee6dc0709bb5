import ClusterEvidence.Proofs.FileSystem.Path
import ClusterEvidence.Proofs.Text.Order
import ClusterEvidence.Proofs.Traverse
import ClusterEvidence.Save
import Mathlib.Data.List.DropRight

/-!
# No result goes outside the directory

A key can come from anywhere, so it is refused unless it names a file below the directory that
results are saved in. What is refused is said here of the text of the key (`IsRefused`), and so is
where the others go (`IsBelow`), so that the three readings of a key that decide about it are one.

## Main results

* `directorySegments_eq`, `names_getLast?` — the directory and the name as parts of the text.
* `destination_contained` — a key goes strictly below the directory or is refused, and with it all
  the results before any of them is written.
-/

namespace ClusterEvidence.Save

variable {root key : String}

/-! ## The parts of a key -/

/-- The text of a key up to its last slash. -/
def upToLastSlash (key : String) : String := String.ofList (key.toList.rdropWhile (· != '/'))

/-- The last segment of a key without the slashes at its end; it is empty when nothing is left. -/
def lastSegment (key : String) : String :=
  (Path.pieces (String.ofList (key.toList.rdropWhile (· == '/')))).getLast?.getD ""

/-- A text with a slash is cut at the last one. -/
private theorem exists_cut (h : '/' ∈ key.toList) :
    ∃ front rest, key = front ++ "/" ++ rest ∧ '/' ∉ rest.toList := by
  obtain ⟨rest, front, htext, hrest⟩ := List.eq_append_cons_of_mem (List.mem_reverse.2 h)
  refine ⟨String.ofList front.reverse, String.ofList rest.reverse, ?_, by simpa using hrest⟩
  have hkey : key.toList = front.reverse ++ '/' :: rest.reverse := by
    have hreverse := congrArg List.reverse htext
    simpa using hreverse
  apply String.toList_inj.1
  simp [hkey]

private theorem upToLastSlash_append {front rest : String} (h : '/' ∉ rest.toList) :
    upToLastSlash (front ++ "/" ++ rest) = front ++ "/" := by
  have hrest : ∀ c ∈ rest.toList.reverse, (c != '/') = true := by
    intro c hc
    have hne : c ≠ '/' := by
      rintro rfl
      exact h (List.mem_reverse.1 hc)
    simpa using hne
  have htext : (front ++ "/" ++ rest).toList.rdropWhile (· != '/') = front.toList ++ ['/'] := by
    rw [List.rdropWhile]
    simp [List.dropWhile_append_of_pos hrest]
  rw [upToLastSlash, htext]
  apply String.toList_inj.1
  simp

private theorem upToLastSlash_of_not_mem (h : '/' ∉ key.toList) : upToLastSlash key = "" := by
  have htext : key.toList.rdropWhile (· != '/') = [] := by
    rw [List.rdropWhile_eq_nil_iff]
    intro c hc
    have hne : c ≠ '/' := by
      rintro rfl
      exact h hc
    simpa using hne
  rw [upToLastSlash, htext, String.ofList_nil]

private theorem pieces_of_not_mem (h : '/' ∉ key.toList) : Path.pieces key = [key] := by
  have hpieces : Path.pieces (String.intercalate "/" [key]) = [key] :=
    Path.pieces_intercalate (by simp) (by simpa using h)
  rwa [String.intercalate_singleton] at hpieces

/-- The segments of the directory are those of the text up to the last slash. -/
theorem directorySegments_eq (key : String) :
    directorySegments key = Path.segments (upToLastSlash key) := by
  have hfilter (pieces : List String) :
      pieces.filter (fun piece => piece != "" && piece != ".") =
        (pieces.filter (· != "")).filter (· != ".") := by
    rw [List.filter_filter]
    refine List.filter_congr fun piece _ => ?_
    rw [Bool.and_comm]
  by_cases hslash : '/' ∈ key.toList
  · obtain ⟨front, rest, rfl, hrest⟩ := exists_cut hslash
    have hpieces : Path.pieces (front ++ "/") = Path.pieces front ++ [""] := by
      have happend := Path.pieces_append_slash front ""
      rwa [String.append_empty] at happend
    rw [upToLastSlash_append hrest, directorySegments, hfilter, Path.pieces_append_slash,
      pieces_of_not_mem hrest, List.dropLast_concat, Path.segments, Path.names, hpieces]
    simp
  · rw [upToLastSlash_of_not_mem hslash, directorySegments, pieces_of_not_mem hslash]
    rfl

/-- The last name of a key is its last segment, unless that is empty. -/
theorem names_getLast? (key : String) :
    (Path.names key).getLast? = if lastSegment key = "" then none else some (lastSegment key) := by
  obtain ⟨text, rfl⟩ : ∃ text, key = String.ofList text := ⟨key.toList, by simp⟩
  -- A slash at the end changes neither side.
  induction text using List.reverseRecOn with
  | nil => rfl
  | append_singleton text c ih =>
      by_cases hc : c = '/'
      · have hkey : String.ofList (text ++ [c]) = String.ofList text ++ "/" ++ "" := by
          apply String.toList_inj.1
          simp [hc]
        have hsegment : lastSegment (String.ofList (text ++ [c])) =
            lastSegment (String.ofList text) := by
          simp [lastSegment, hc]
        have hnames : Path.names (String.ofList (text ++ [c])) =
            Path.names (String.ofList text) := by
          rw [hkey, Path.names_append_slash, Path.names_empty, List.append_nil]
        rw [hnames, hsegment, ih]
      · have hsegment : lastSegment (String.ofList (text ++ [c])) =
            (Path.pieces (String.ofList (text ++ [c]))).getLast?.getD "" := by
          simp [lastSegment, hc]
        by_cases hslash : '/' ∈ (String.ofList (text ++ [c])).toList
        · obtain ⟨front, rest, hkey, hrest⟩ := exists_cut hslash
          have hne : rest ≠ "" := by
            rintro rfl
            have hlast := congrArg (fun s : String => s.toList.getLast?) hkey
            simp [hc] at hlast
          rw [hsegment, hkey, Path.names_append_slash, Path.pieces_append_slash,
            Path.names.eq_def rest, pieces_of_not_mem hrest]
          simp [hne]
        · rw [hsegment, Path.names, pieces_of_not_mem hslash]
          simp

/-! ## Refused keys -/

/-- What is wrong with a key that is refused. -/
inductive IsRefused (key : String) : Prop where
  /-- A segment leads up. -/
  | up (h : ".." ∈ Path.pieces key)
  | nameless (h : lastSegment key = "")
  | here (h : lastSegment key = ".")
  | slashless (h : '/' ∉ key.toList)
  /-- A relative key has nothing in front of its last slash that leads anywhere. -/
  | noDirectory (hrelative : Path.isAbsolute key = false)
      (h : Path.segments (upToLastSlash key) = [])

private theorem fileName?_eq_none_iff :
    fileName? key = none ↔ lastSegment key = "" ∨ lastSegment key = "." := by
  rw [fileName?, names_getLast?]
  by_cases hempty : lastSegment key = ""
  · simp [hempty]
  · by_cases hhere : lastSegment key = "."
    · simp [hhere]
    · simp [hempty, hhere]

private theorem fileName?_eq_some {file : String} (h : fileName? key = some file) :
    file = lastSegment key := by
  rw [fileName?, names_getLast?] at h
  by_cases hempty : lastSegment key = ""
  · simp [hempty] at h
  · rw [if_neg hempty] at h
    split at h
    · cases h
    · exact (Option.some.inj h).symm

private theorem namesDirectory_eq_false_iff :
    namesDirectory key = false ↔
      Path.isAbsolute key = false ∧ Path.segments (upToLastSlash key) = [] := by
  rw [namesDirectory, directorySegments_eq]
  simp

/-- A key without a slash is not absolute. -/
private theorem isAbsolute_of_not_mem (h : '/' ∉ key.toList) : Path.isAbsolute key = false := by
  rw [← Bool.not_eq_true, Path.isAbsolute_iff]
  exact fun hhead => h (List.mem_of_mem_head? hhead)

theorem destination_of_isRefused (h : IsRefused key) :
    destination root key = .error (.badDumpPath key) := by
  have hnameless (hname : lastSegment key = "" ∨ lastSegment key = ".") :
      destination root key = .error (.badDumpPath key) := by
    rw [destination, fileName?_eq_none_iff.2 hname]
    split <;> rfl
  have hdirectory (hnone : namesDirectory key = false) :
      destination root key = .error (.badDumpPath key) := by
    rw [destination, hnone]
    split
    · rfl
    · split <;> rfl
  cases h with
  | up h => rw [destination, if_pos (List.contains_iff_mem.2 h)]
  | nameless h => exact hnameless (.inl h)
  | here h => exact hnameless (.inr h)
  | slashless h =>
      refine hdirectory (namesDirectory_eq_false_iff.2 ⟨isAbsolute_of_not_mem h, ?_⟩)
      rw [upToLastSlash_of_not_mem h]
      rfl
  | noDirectory hrelative h => exact hdirectory (namesDirectory_eq_false_iff.2 ⟨hrelative, h⟩)

theorem destination_of_not_isRefused (h : ¬ IsRefused key) :
    destination root key = .ok
      ⟨Path.join root (String.intercalate "/" (Path.segments (upToLastSlash key))),
        lastSegment key⟩ := by
  have hup : ¬ (Path.pieces key).contains ".." = true := fun hmem =>
    h (.up (List.contains_iff_mem.1 hmem))
  have hdirectory : namesDirectory key = true := by
    rw [← Bool.not_eq_false]
    intro hnone
    obtain ⟨hrelative, hsegments⟩ := namesDirectory_eq_false_iff.1 hnone
    exact h (.noDirectory hrelative hsegments)
  cases hname : fileName? key with
  | none => exact absurd ((fileName?_eq_none_iff.1 hname).elim .nameless .here) h
  | some file =>
      rw [destination, if_neg hup, hname]
      simp only [hdirectory, if_true]
      rw [directorySegments_eq, fileName?_eq_some hname]

/-! ## Where the others go -/

/-- What a key that is not refused leads to lies strictly below the root: its path is that of the
root, then the directories that the key names, then the file, and nothing in it leads up. -/
structure IsBelow (root key : String) (place : Destination) : Prop where
  file : place.file = lastSegment key
  isEntryName : Path.IsEntryName place.file
  directory : place.directory =
    Path.join root (String.intercalate "/" (Path.segments (upToLastSlash key)))
  directoryNames :
    Path.names place.directory = Path.names root ++ Path.segments (upToLastSlash key)
  isEntryName_of_mem : ∀ name ∈ Path.segments (upToLastSlash key), Path.IsEntryName name
  names : Path.names place.path =
    Path.names root ++ Path.segments (upToLastSlash key) ++ [place.file]
  isAbsolute : Path.isAbsolute place.path = Path.isAbsolute root
  startsWith : ∃ rest, place.path = root ++ rest

/-- The segments of a key that nothing leads up in are entry names. -/
theorem isEntryName_of_mem_segments (h : ".." ∉ Path.pieces key) {name : String}
    (hname : name ∈ Path.segments (upToLastSlash key)) : Path.IsEntryName name := by
  rw [← directorySegments_eq] at hname
  obtain ⟨hmem, hkept⟩ := List.mem_filter.1 hname
  have hpiece : name ∈ Path.pieces key := List.dropLast_subset _ hmem
  obtain ⟨hempty, hhere⟩ : name ≠ "" ∧ name ≠ "." := by simpa using hkept
  exact ⟨hempty, hhere, fun heq => h (heq ▸ hpiece), Path.noSlash_of_mem_pieces hpiece⟩

/-- The last segment of a key that is not refused is an entry name. -/
theorem isEntryName_lastSegment (h : ¬ IsRefused key) : Path.IsEntryName (lastSegment key) := by
  have hempty : lastSegment key ≠ "" := fun heq => h (.nameless heq)
  have hlast := names_getLast? key
  rw [if_neg hempty] at hlast
  have hname : lastSegment key ∈ Path.names key := List.mem_of_getLast? hlast
  have hpiece : lastSegment key ∈ Path.pieces key := (List.mem_filter.1 hname).1
  exact ⟨hempty, fun heq => h (.here heq), fun heq => h (.up (heq ▸ hpiece)),
    Path.noSlash_of_mem_pieces hpiece⟩

/-- A file in a directory below the root is below it. -/
private theorem isBelow_of_isEntryName {directory file : String}
    (hfile : file = lastSegment key) (hname : Path.IsEntryName file)
    (hsegments : ∀ name ∈ Path.segments (upToLastSlash key), Path.IsEntryName name)
    (hdirectory : directory =
      Path.join root (String.intercalate "/" (Path.segments (upToLastSlash key)))) :
    IsBelow root key ⟨directory, file⟩ := by
  have hbelow : ∀ name ∈ Path.segments (upToLastSlash key), name ≠ "" ∧ '/' ∉ name.toList :=
    fun name hmem => (hsegments name hmem).isPiece
  have hlast : ∀ name ∈ [file], name ≠ "" ∧ '/' ∉ name.toList := by
    intro name hmem
    rw [List.mem_singleton.1 hmem]
    exact hname.isPiece
  have hrelative := Path.isAbsolute_intercalate hbelow
  have hrelativeFile := Path.isAbsolute_intercalate hlast
  have hfileNames := Path.names_intercalate hlast
  rw [String.intercalate_singleton] at hrelativeFile hfileNames
  have hdirectoryNames : Path.names directory =
      Path.names root ++ Path.segments (upToLastSlash key) := by
    rw [hdirectory, Path.names_join root hrelative, Path.names_intercalate hbelow]
  have hpath : (Destination.mk directory file).path = Path.join directory file := rfl
  refine ⟨hfile, hname, hdirectory, hdirectoryNames, hsegments, ?_, ?_, ?_⟩
  · rw [hpath, Path.names_join directory hrelativeFile, hdirectoryNames, hfileNames]
  · rw [hpath, Path.isAbsolute_join directory hrelativeFile, hdirectory,
      Path.isAbsolute_join root hrelative]
  · obtain ⟨front, hfront⟩ := Path.exists_join_eq root hrelative
    obtain ⟨between, hbetween⟩ := Path.exists_join_eq directory hrelativeFile
    rw [hpath, hbetween, hdirectory, hfront]
    simp only [String.append_assoc]
    exact ⟨_, rfl⟩

/-- Where a key goes that is not refused. -/
theorem isBelow_of_not_isRefused (root : String) (h : ¬ IsRefused key) :
    ∃ place, destination root key = .ok place ∧ IsBelow root key place := by
  have hup : ".." ∉ Path.pieces key := fun hmem => h (.up hmem)
  exact ⟨_, destination_of_not_isRefused h, isBelow_of_isEntryName rfl (isEntryName_lastSegment h)
    (fun name hname => isEntryName_of_mem_segments hup hname) rfl⟩

/-! ## All the keys of a map -/

private theorem destination_eq_error_iff {e : Error} :
    destination root key = .error e ↔ IsRefused key ∧ e = .badDumpPath key := by
  by_cases h : IsRefused key
  · rw [destination_of_isRefused h, Except.error.injEq]
    exact ⟨fun heq => ⟨h, heq.symm⟩, fun hcause => hcause.2.symm⟩
  · rw [destination_of_not_isRefused h]
    exact ⟨nofun, fun hrefused => absurd hrefused.1 h⟩

theorem destinations_eq (root : String) (results : Keyed Bytes) :
    destinations root results =
      mapAll (fun entry => (destination root entry.1).map (·, entry.2)) results.entries :=
  rfl

/-- The least key that is refused ends saving before anything is written. -/
theorem results_of_isRefused (root : String) {results : Keyed Bytes}
    (h : ∃ key ∈ results.keys, IsRefused key) :
    ∃ key ∈ results.keys, IsRefused key ∧
      (∀ other ∈ results.keys, IsRefused other → key ≤ other) ∧
      Save.results root results = pure (.error (.badDumpPath key)) := by
  obtain ⟨refused, hmem, hrefused⟩ := h
  obtain ⟨entry, hentry, rfl⟩ := List.mem_map.1 hmem
  -- A refused key has no value in the pass over the entries.
  have hnone {entry : String × Bytes} (h : IsRefused entry.1) :
      ¬ ∃ value, (destination root entry.1).map (·, entry.2) = .ok value := by
    rw [destination_of_isRefused h]
    exact nofun
  rcases exists_of_forall_or_first
    (fun entry : String × Bytes => (destination root entry.1).map (·, entry.2))
    results.entries with hall | ⟨front, ⟨key, body⟩, rest, e, hentries, hfront, hfirst, hpass⟩
  · exact absurd (hall entry hentry) (hnone hrefused)
  · have hsorted := results.sorted
    rw [hentries] at hsorted
    have hlater := (List.pairwise_cons.1 (List.pairwise_append.1 hsorted).2.1).1
    have hcause : IsRefused key ∧ e = .badDumpPath key := by
      change (destination root key).map (·, body) = .error e at hfirst
      cases hplace : destination root key with
      | error cause =>
          rw [hplace] at hfirst
          cases hfirst
          exact destination_eq_error_iff.1 hplace
      | ok place =>
          rw [hplace] at hfirst
          cases hfirst
    obtain ⟨hkey, rfl⟩ := hcause
    have hmemKey : key ∈ results.keys := by
      rw [Keyed.keys, hentries]
      exact List.mem_map.2 ⟨(key, body), by simp, rfl⟩
    refine ⟨key, hmemKey, hkey, fun other hother hrefusedOther => ?_, ?_⟩
    · obtain ⟨entry', hentry', rfl⟩ := List.mem_map.1 hother
      rw [hentries] at hentry'
      rcases List.mem_append.1 hentry' with hbefore | hafter
      · exact absurd (hfront entry' hbefore) (hnone hrefusedOther)
      · rcases List.mem_cons.1 hafter with rfl | hafter
        · exact String.le_refl _
        · exact Std.le_of_lt (hlater entry' hafter)
    · rw [Save.results, destinations_eq, hpass]

/-- A key goes strictly below the root or is refused, and it is refused exactly when something is
wrong with it. With one refused key nothing is written: saving gives that of the least one and does
no operation on the file system. -/
theorem destination_contained (root : String) :
    (∀ key place, destination root key = .ok place → IsBelow root key place) ∧
      (∀ key, destination root key = .error (.badDumpPath key) ↔ IsRefused key) ∧
      (∀ key, ¬ IsRefused key → ∃ place, destination root key = .ok place) ∧
      ∀ results : Keyed Bytes, (∃ key ∈ results.keys, IsRefused key) →
        ∃ key ∈ results.keys, IsRefused key ∧
          (∀ other ∈ results.keys, IsRefused other →
            Text.encodeString key ≤ Text.encodeString other) ∧
          Save.results root results = pure (.error (.badDumpPath key)) := by
  refine ⟨fun key place hplace => ?_, fun key => ?_, fun key hkey => ?_, fun results h => ?_⟩
  · have hkey : ¬ IsRefused key := by
      intro hrefused
      rw [destination_of_isRefused hrefused] at hplace
      cases hplace
    obtain ⟨place', hplace', hbelow⟩ := isBelow_of_not_isRefused root hkey
    rw [hplace, Except.ok.injEq] at hplace'
    exact hplace' ▸ hbelow
  · rw [destination_eq_error_iff]
    exact ⟨fun hrefused => hrefused.1, fun hrefused => ⟨hrefused, rfl⟩⟩
  · exact ⟨_, destination_of_not_isRefused hkey⟩
  · obtain ⟨key, hmem, hrefused, hleast, hsave⟩ := results_of_isRefused root h
    exact ⟨key, hmem, hrefused, fun other hother hother' =>
      Text.encodeString_le_iff.2 (hleast other hother hother'), hsave⟩

example : destination "/results" "/a//./b/" = .ok ⟨"/results/a/b", "b"⟩ := by decide

end ClusterEvidence.Save
