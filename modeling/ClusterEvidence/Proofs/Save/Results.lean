import ClusterEvidence.Proofs.Keyed
import ClusterEvidence.Proofs.Save.Destination
import ClusterEvidence.Proofs.Save.Writing

/-!
# Which results are there after they were saved

Different keys can have the same place below the root, because empty segments, `.` and slashes at
the end of a key mean nothing there; and the place of one key can be on the way to that of another.
In the first case the greater key takes the place of the lesser one without a word, in the second
saving ends with a fault of the file system. Where neither happens every result is in a file of its
own.

## Main results

* `results_kept_iff` — saving succeeds exactly when no place is on the way to another, leaves at
  each place the result of the greatest key, and keeps all results exactly when no place of a key is
  that of another or on the way to it.
-/

namespace ClusterEvidence.Save

open FileSystem

variable {files : FileSystem} {root key : String} {base : Location} {results : Keyed Bytes}

/-! ## Results as files -/

/-- The place of a key: the directories that it names and its file's name. -/
def place (key : String) : List String :=
  Path.segments (upToLastSlash key) ++ [lastSegment key]

/-- The file of a result. -/
def item (key : String) (body : Bytes) : Item :=
  ⟨Path.segments (upToLastSlash key), lastSegment key, body⟩

theorem place_item (key : String) (body : Bytes) : (item key body).place = place key := by
  simp only [Item.place, item, place]

theorem body_item (key : String) (body : Bytes) : (item key body).body = body := by
  simp only [item]

private theorem goal_item (root key : String) (body : Bytes) :
    (item key body).goal root =
      ⟨Path.join root (String.intercalate "/" (Path.segments (upToLastSlash key))),
        lastSegment key⟩ := by
  simp only [Item.goal, item]

/-- A path that leads to a directory with nothing below it. -/
structure IsFresh (files : FileSystem) (root : String) (base : Location) : Prop where
  leads : (Path.names root).foldlM files.follow (files.start root) = .ok base
  directory : files.IsDirectoryAt base
  empty : ∀ below, below ≠ [] → files.at? (base ++ below) = none

/-- A key that is not refused and that has a path which the file system can have. -/
structure IsSavable (root key : String) : Prop where
  accepted : ∃ goal, destination root key = .ok goal ∧ textFault? goal.path = none
  short : ∀ name ∈ place key, Text.byteLength name.toList ≤ nameLimit

/-- Saving succeeds, and every result is in a file that is that of no other key. -/
structure Kept (files : FileSystem) (root : String) (results : Keyed Bytes) : Prop where
  succeeds : (Save.results root results files).1 = .ok ()
  bodies : ∀ key body goal, results.get? key = some body → destination root key = .ok goal →
    (Save.results root results files).2.readFile goal.path = .ok body
  own : ∀ key ∈ results.keys, ∀ other ∈ results.keys,
    destination root key = destination root other → key = other

theorem not_isRefused_of_destination {goal : Destination} (h : destination root key = .ok goal) :
    ¬ IsRefused key := by
  intro hrefused
  rw [destination_of_isRefused hrefused] at h
  cases h

theorem IsSavable.destination_eq (h : IsSavable root key) (body : Bytes) :
    destination root key = .ok ((item key body).goal root) := by
  obtain ⟨goal, hgoal, _⟩ := h.accepted
  rw [goal_item]
  exact destination_of_not_isRefused (not_isRefused_of_destination hgoal)

/-- The file of a key that can be saved is one that the file system can have. -/
private theorem IsSavable.isPossible (h : IsSavable root key) (body : Bytes) :
    (item key body).IsPossible root := by
  obtain ⟨goal, hgoal, hfault⟩ := h.accepted
  have hrefused := not_isRefused_of_destination hgoal
  refine ⟨fun name hname => ?_, ?_⟩
  · rw [place_item] at hname
    refine ⟨?_, h.short name hname⟩
    rcases List.mem_append.1 hname with hname | hname
    · exact isEntryName_of_mem_segments (fun hup => hrefused (.up hup)) hname
    · rw [List.mem_singleton.1 hname]
      exact isEntryName_lastSegment hrefused
  · rw [h.destination_eq body, Except.ok.injEq] at hgoal
    rw [hgoal]
    exact hfault

/-- The names in the path of a key are those of the root and of its place. -/
private theorem names_path {goal : Destination} (hgoal : destination root key = .ok goal) :
    Path.names goal.path = Path.names root ++ place key := by
  obtain ⟨goal', hgoal', hbelow⟩ :=
    isBelow_of_not_isRefused root (not_isRefused_of_destination hgoal)
  rw [hgoal, Except.ok.injEq] at hgoal'
  rw [hgoal', hbelow.names, hbelow.file, List.append_assoc, place]

/-- Two keys have one destination exactly when they have one place. -/
private theorem destination_eq_iff {other : String} (h : IsSavable root key)
    (h' : IsSavable root other) :
    destination root key = destination root other ↔ place key = place other := by
  constructor
  · intro heq
    obtain ⟨goal, hgoal, _⟩ := h.accepted
    have hnames := (names_path hgoal).symm.trans (names_path (heq ▸ hgoal))
    exact List.append_cancel_left hnames
  · intro heq
    rw [place, place] at heq
    obtain ⟨hdirectory, hfile⟩ := List.append_inj' heq (by simp)
    have hlast : lastSegment key = lastSegment other := List.singleton_inj.1 hfile
    rw [h.destination_eq [], h'.destination_eq [], goal_item, goal_item, hdirectory, hlast]

/-! ## Writing the files of all results -/

/-- The files of all results, in the order of their keys. -/
def items (results : Keyed Bytes) : List Item :=
  results.entries.map fun entry => item entry.1 entry.2

private theorem exists_of_mem_items {one : Item} (h : one ∈ items results) :
    ∃ key body, key ∈ results.keys ∧ results.get? key = some body ∧ one = item key body := by
  obtain ⟨⟨key, body⟩, hentry, rfl⟩ := List.mem_map.1 h
  have hbody := (results.mem_entries_iff key body).1 hentry
  exact ⟨key, body, Keyed.mem_keys_iff.2 ⟨body, hbody⟩, hbody, rfl⟩

private theorem item_mem_items {body : Bytes} (h : results.get? key = some body) :
    item key body ∈ items results :=
  List.mem_map.2 ⟨(key, body), (results.mem_entries_iff key body).2 h, rfl⟩

/-- Saving is writing these files, when no key is refused. -/
private theorem results_eq (hkeys : ∀ key ∈ results.keys, IsSavable root key) (files : FileSystem) :
    Save.results root results files =
      let written := writeAll ((items results).map fun item => (item.goal root, item.body)) files
      (written.1.mapError .file, written.2) := by
  have hpass : destinations root results =
      .ok (results.entries.map fun entry => ((item entry.1 entry.2).goal root, entry.2)) := by
    rw [destinations_eq]
    refine mapAll_eq_ok fun entry hentry => ?_
    have hkey : entry.1 ∈ results.keys := List.mem_map.2 ⟨entry, hentry, rfl⟩
    simp only [(hkeys _ hkey).destination_eq entry.2, Except.map]
  have hitems : (items results).map (fun item => (item.goal root, item.body)) =
      results.entries.map fun entry => ((item entry.1 entry.2).goal root, entry.2) := by
    rw [items, List.map_map]
    refine List.map_congr_left fun entry _ => ?_
    rw [Function.comp_apply, body_item]
  rw [Save.results, hpass, hitems]
  rfl

/-- The greatest key of a place has written there last. -/
private theorem lookup_of_greatest {body : Bytes} (hbody : results.get? key = some body)
    (hgreatest : ∀ other ∈ results.keys, place other = place key → other ≤ key) :
    (((items results).map fun item => (item.place, item.body)).reverse).lookup (place key) =
      some body := by
  obtain ⟨front, rest, hentries⟩ :=
    List.append_of_mem ((results.mem_entries_iff key body).2 hbody)
  have hsorted := results.sorted
  rw [hentries] at hsorted
  have hlater := (List.pairwise_cons.1 (List.pairwise_append.1 hsorted).2.1).1
  have hwritten : (items results).map (fun item => (item.place, item.body)) =
      results.entries.map fun entry => (place entry.1, entry.2) := by
    rw [items, List.map_map]
    refine List.map_congr_left fun entry _ => ?_
    rw [Function.comp_apply, place_item, body_item]
  have hrest : ((rest.map fun entry => (place entry.1, entry.2)).reverse).lookup (place key) =
      none := by
    rw [List.lookup_eq_none_iff]
    intro entry hentry
    obtain ⟨later, hmem, rfl⟩ := List.mem_map.1 (List.mem_reverse.1 hentry)
    have hkey : later.1 ∈ results.keys := by
      rw [Keyed.keys, hentries]
      exact List.mem_map.2 ⟨later, by simp [hmem], rfl⟩
    have hne : place key ≠ place later.1 := by
      intro heq
      have hle := hgreatest later.1 hkey heq.symm
      exact absurd (hlater later hmem) (String.not_lt.2 hle)
    simpa using hne
  rw [hwritten, hentries, List.map_append, List.map_cons, List.reverse_append, List.reverse_cons,
    List.append_assoc, List.lookup_append, hrest, Option.none_or]
  simp

/-! ## What saving leaves behind -/

/-- Nothing was written to a fresh root. -/
private theorem IsFresh.holds (h : IsFresh files root base) : Holds files files base [] := by
  have hnothing {below : List String} (hentry : files.at? (base ++ below) ≠ none) : below = [] := by
    by_cases hbelow : below = []
    · exact hbelow
    · exact absurd (h.empty below hbelow) hentry
  refine ⟨.refl _, by simp, by simp, fun below hfile => ?_, fun below hdirectory => ?_⟩
  · obtain ⟨mode, contents, hentry⟩ := hfile
    have hnil := hnothing (by rw [hentry]; simp)
    rw [hnil, List.append_nil] at hentry
    exact absurd ⟨mode, contents, hentry⟩ (not_isFileAt_of_isDirectoryAt h.directory)
  · obtain ⟨mode, hentry⟩ := hdirectory
    exact .inl (hnothing (by rw [hentry]; simp))

section

variable (hfresh : IsFresh files root base) (hkeys : ∀ key ∈ results.keys, IsSavable root key)
include hfresh hkeys

/-- Files that were all written are on the way to none of them. -/
theorem apart_of_succeeds (h : (Save.results root results files).1 = .ok ()) :
    Apart (results.keys.map place) := by
  have hpossible : ∀ one ∈ items results, one.IsPossible root := by
    intro one hone
    obtain ⟨key, body, hkey, _, rfl⟩ := exists_of_mem_items hone
    exact (hkeys key hkey).isPossible body
  rw [results_eq hkeys] at h
  rcases hwrite : writeAll ((items results).map fun item => (item.goal root, item.body)) files with
    ⟨result, after⟩
  rw [hwrite] at h
  cases result with
  | error fault => cases h
  | ok done =>
      have hdone := writeAll_done hfresh.leads hpossible hwrite
      have hfiles : ∀ found ∈ results.keys.map place,
          after.Way base found ∧ after.IsFileAt (base ++ found) := by
        intro found hfound
        obtain ⟨key, hkey, rfl⟩ := List.mem_map.1 hfound
        obtain ⟨body, hbody⟩ := Keyed.mem_keys_iff.1 hkey
        have hplace := hdone _ (item_mem_items hbody)
        rwa [place_item] at hplace
      exact apart_of_isFileAt hfiles

/-- When no place is on the way to another all files are written, and at each place the result of
the greatest key is read. -/
theorem saved_of_apart (hapart : Apart (results.keys.map place)) :
    (Save.results root results files).1 = .ok () ∧
      ∀ key body goal, results.get? key = some body → destination root key = .ok goal →
        (∀ other ∈ results.keys, place other = place key → other ≤ key) →
        (Save.results root results files).2.readFile goal.path = .ok body := by
  have hitems : ∀ one ∈ items results,
      one.IsPossible root ∧ one.place ∈ results.keys.map place := by
    intro one hone
    obtain ⟨key, body, hkey, _, rfl⟩ := exists_of_mem_items hone
    refine ⟨(hkeys key hkey).isPossible body, ?_⟩
    rw [place_item]
    exact List.mem_map.2 ⟨key, hkey, rfl⟩
  obtain ⟨after, hwrite, hholds⟩ :=
    hfresh.holds.writeAll hfresh.leads hfresh.directory hapart hitems (by simp)
  rw [results_eq hkeys, hwrite]
  refine ⟨rfl, fun key body goal hbody hgoal hgreatest => ?_⟩
  have hkey : key ∈ results.keys := Keyed.mem_keys_iff.2 ⟨body, hbody⟩
  have hlookup := lookup_of_greatest hbody hgreatest
  rw [List.append_nil] at hholds
  obtain ⟨mode, hfile⟩ := hholds.contents _ _ hlookup
  have hway : after.Way base (place key) := by
    have hentry : (place key, body) ∈
        ((items results).map fun item => (item.place, item.body)).reverse := by
      refine List.mem_reverse.2 (List.mem_map.2 ⟨_, item_mem_items hbody, ?_⟩)
      rw [place_item, body_item]
    exact hholds.way (place key, body) hentry
  have hpossible := (hkeys key hkey).isPossible body
  have hleads := (hpossible.leadsTo hfresh.leads).extends hholds.extension
  have hshort := hpossible.short
  rw [place_item] at hleads hshort
  rw [(hkeys key hkey).destination_eq body, Except.ok.injEq] at hgoal
  rw [← hgoal]
  exact hleads.readFile hshort hpossible.endsInSlash_path hway hfile

end

/-- Saving to a fresh root succeeds exactly when no place of a key is on the way to another place.
What is read at a place is then the result of the greatest key that has it. All results are kept
exactly when the place of a key is neither that of another key nor on the way to it. -/
theorem results_kept_iff (hfresh : IsFresh files root base)
    (hkeys : ∀ key ∈ results.keys, IsSavable root key) :
    ((Save.results root results files).1 = .ok () ↔
        ∀ key ∈ results.keys, ∀ other ∈ results.keys,
          place key <+: place other → place key = place other) ∧
      ((Save.results root results files).1 = .ok () →
        ∀ key body goal, results.get? key = some body → destination root key = .ok goal →
          (∀ other ∈ results.keys, place other = place key → other ≤ key) →
          (Save.results root results files).2.readFile goal.path = .ok body) ∧
      (Kept files root results ↔
        ∀ key ∈ results.keys, ∀ other ∈ results.keys, place key <+: place other → key = other) := by
  have hapart : Apart (results.keys.map place) ↔
      ∀ key ∈ results.keys, ∀ other ∈ results.keys,
        place key <+: place other → place key = place other := by
    constructor
    · exact fun h key hkey other hother =>
        h _ (List.mem_map.2 ⟨key, hkey, rfl⟩) _ (List.mem_map.2 ⟨other, hother, rfl⟩)
    · intro h one hone two htwo
      obtain ⟨key, hkey, rfl⟩ := List.mem_map.1 hone
      obtain ⟨other, hother, rfl⟩ := List.mem_map.1 htwo
      exact h key hkey other hother
  rw [← hapart]
  refine ⟨⟨apart_of_succeeds hfresh hkeys, fun h => (saved_of_apart hfresh hkeys h).1⟩,
    fun h => (saved_of_apart hfresh hkeys (apart_of_succeeds hfresh hkeys h)).2 , ?_⟩
  constructor
  · intro h key hkey other hother hprefix
    have hwritten := apart_of_succeeds hfresh hkeys h.succeeds
    have hplace := hapart.1 hwritten key hkey other hother hprefix
    exact h.own key hkey other hother
      ((destination_eq_iff (hkeys key hkey) (hkeys other hother)).2 hplace)
  · intro h
    have hown : ∀ key ∈ results.keys, ∀ other ∈ results.keys, place key = place other →
        key = other := by
      intro key hkey other hother heq
      exact h key hkey other hother ⟨[], by rw [List.append_nil, heq]⟩
    have hplaces := hapart.2 fun key hkey other hother hprefix =>
      congrArg place (h key hkey other hother hprefix)
    have hsaved := saved_of_apart hfresh hkeys hplaces
    refine ⟨hsaved.1, fun key body goal hbody hgoal => ?_, fun key hkey other hother heq => ?_⟩
    · have hkey := Keyed.mem_keys_iff.2 ⟨body, hbody⟩
      refine hsaved.2 key body goal hbody hgoal fun other hother hplace => ?_
      have heq := hown other hother key hkey hplace
      exact heq ▸ String.le_refl _
    · exact hown key hkey other hother
        ((destination_eq_iff (hkeys key hkey) (hkeys other hother)).1 heq)

/-- The file system of an empty directory. -/
def emptyOut : FileSystem := ⟨[(["out"], .directory 0o755)], []⟩

private theorem isFresh_emptyOut : IsFresh emptyOut "out" ["out"] := by
  refine ⟨by decide, ⟨0o755, by decide⟩, fun below hbelow => ?_⟩
  cases below with
  | nil => exact absurd rfl hbelow
  | cons name below => simp [at?, emptyOut, List.lookup_cons]

theorem results_kept_apart :
    (∀ key ∈ (Keyed.ofList [("/a/b", [1]), ("/a/c", [2])] : Keyed Bytes).keys,
        IsSavable "out" key) ∧
      Kept emptyOut "out" (Keyed.ofList [("/a/b", [1]), ("/a/c", [2])]) := by
  have hkeys : ∀ key ∈ (Keyed.ofList [("/a/b", [1]), ("/a/c", [2])] : Keyed Bytes).keys,
      IsSavable "out" key := by
    intro key hkey
    have hlist : (Keyed.ofList [("/a/b", [1]), ("/a/c", [2])] : Keyed Bytes).keys =
        ["/a/b", "/a/c"] := by decide
    have hcases : key = "/a/b" ∨ key = "/a/c" := by simpa [hlist] using hkey
    rcases hcases with rfl | rfl
    · exact ⟨⟨_, rfl, by decide⟩, by decide⟩
    · exact ⟨⟨_, rfl, by decide⟩, by decide⟩
  exact ⟨hkeys, (results_kept_iff isFresh_emptyOut hkeys).2.2.2 (by decide)⟩

/-- A key that is on the way to another ends saving, and of two keys with one place the lesser one
is lost. -/
theorem results_lost :
    IsFresh emptyOut "out" ["out"] ∧
      (∀ key ∈ ["/a", "/a/b", "/a//b"], IsSavable "out" key) ∧
      (Save.results "out" (Keyed.ofList [("/a", [1]), ("/a/b", [2])]) emptyOut).1 =
        .error (.file .alreadyExists) ∧
      (Save.results "out" (Keyed.ofList [("/a//b", [1]), ("/a/b", [2])]) emptyOut).1 = .ok () ∧
      destination "out" "/a//b" = .ok ⟨"out/a", "b"⟩ ∧
      (Save.results "out" (Keyed.ofList [("/a//b", [1]), ("/a/b", [2])]) emptyOut).2.readFile
        "out/a/b" = .ok [2] := by
  refine ⟨isFresh_emptyOut, fun key hkey => ?_, by decide +kernel, by decide +kernel,
    by decide +kernel, by decide +kernel⟩
  have hcases : key = "/a" ∨ key = "/a/b" ∨ key = "/a//b" := by simpa using hkey
  rcases hcases with rfl | rfl | rfl
  · exact ⟨⟨_, rfl, by decide⟩, by decide⟩
  · exact ⟨⟨_, rfl, by decide⟩, by decide⟩
  · exact ⟨⟨_, rfl, by decide⟩, by decide⟩

end ClusterEvidence.Save
