import ClusterEvidence.FileSystem.Path
import ClusterEvidence.Proofs.Text.Splitting

/-!
# The names in a path

A path below a directory has the names of the directory and then its own, and the steps of a path
that is made of names are these names. What is left of a path when it is written with fewer steps
is part of its text, so that it is no longer than the path and holds no other characters.

## Main results

* `names_join` — the names of a path below a directory.
* `steps_join` — its steps, where the path is made of entry names.
* `ofSteps_sublist` — a path of some of the steps of a path is part of its text.
-/

namespace ClusterEvidence.Path

/-! ## Entry names -/

/-- A name that an entry of a directory can have. -/
structure IsEntryName (name : String) : Prop where
  ne_empty : name ≠ ""
  ne_here : name ≠ "."
  ne_up : name ≠ ".."
  noSlash : '/' ∉ name.toList

theorem IsEntryName.isPiece {name : String} (h : IsEntryName name) :
    name ≠ "" ∧ '/' ∉ name.toList :=
  ⟨h.ne_empty, h.noSlash⟩

/-! ## Pieces -/

private theorem pieces_ne_nil (path : String) : pieces path ≠ [] := by
  simpa [pieces, Text.splitOn] using Text.splitWhen_ne_nil _ path.toList

theorem pieces_append_slash (front rest : String) :
    pieces (front ++ "/" ++ rest) = pieces front ++ pieces rest := by
  have htext : (front ++ "/" ++ rest).toList = front.toList ++ '/' :: rest.toList := by simp
  rw [pieces, htext, Text.splitOn_append_cons, List.map_append]
  rfl

theorem noSlash_of_mem_pieces {path piece : String} (h : piece ∈ pieces path) :
    '/' ∉ piece.toList := by
  obtain ⟨text, htext, rfl⟩ := List.mem_map.1 h
  rw [String.toList_ofList]
  exact Text.not_mem_of_mem_splitOn htext

/-- The pieces of a path give its text back. -/
private theorem intercalate_pieces (path : String) :
    String.intercalate "/" (pieces path) = path := by
  have hmap : (pieces path).map String.toList = Text.splitOn '/' path.toList := by
    simp [pieces, Function.comp_def]
  have htext : (String.intercalate "/" (pieces path)).toList = path.toList := by
    rw [String.toList_intercalate, hmap]
    exact Text.intercalate_splitOn '/' path.toList
  exact String.toList_inj.1 htext

/-- Pieces that are joined by slashes are the pieces of the result. -/
theorem pieces_intercalate {steps : List String} (hne : steps ≠ [])
    (h : ∀ step ∈ steps, '/' ∉ step.toList) :
    pieces (String.intercalate "/" steps) = steps := by
  have hsplit : Text.splitOn '/' (String.intercalate "/" steps).toList =
      steps.map String.toList := by
    rw [String.toList_intercalate]
    refine Text.splitOn_intercalate (by simpa using hne) fun piece hpiece => ?_
    obtain ⟨step, hstep, rfl⟩ := List.mem_map.1 hpiece
    exact h step hstep
  rw [pieces, hsplit, List.map_map]
  simp [Function.comp_def]

private theorem noSlash_of_mem_names {path name : String} (h : name ∈ names path) :
    name ≠ "" ∧ '/' ∉ name.toList := by
  obtain ⟨hpiece, hne⟩ := List.mem_filter.1 h
  exact ⟨by simpa using hne, noSlash_of_mem_pieces hpiece⟩

theorem names_append_slash (front rest : String) :
    names (front ++ "/" ++ rest) = names front ++ names rest := by
  rw [names, pieces_append_slash, List.filter_append]
  rfl

theorem names_empty : names "" = [] := rfl

/-- The names of a path that is made of names are these names. -/
theorem names_intercalate {steps : List String}
    (h : ∀ step ∈ steps, step ≠ "" ∧ '/' ∉ step.toList) :
    names (String.intercalate "/" steps) = steps := by
  by_cases hne : steps = []
  · rw [hne, String.intercalate_nil, names_empty]
  · rw [names, pieces_intercalate hne fun step hstep => (h step hstep).2]
    exact List.filter_eq_self.2 fun step hstep => by simpa using (h step hstep).1

/-! ## Slashes at the ends -/

theorem isAbsolute_iff {path : String} : isAbsolute path = true ↔ path.toList.head? = some '/' := by
  simp [isAbsolute]

private theorem isAbsolute_append {front rest : String} (h : front ≠ "") :
    isAbsolute (front ++ rest) = isAbsolute front := by
  have hfront : front.toList ≠ [] := by simpa using h
  rw [isAbsolute, isAbsolute, String.toList_append, List.head?_append_of_ne_nil _ hfront]

/-- A path that ends in a slash is another one and a slash. -/
private theorem exists_of_endsInSlash {path : String} (h : endsInSlash path = true) :
    ∃ front, path = front ++ "/" := by
  obtain ⟨front, hfront⟩ : ∃ front, path.toList = front ++ ['/'] := by
    rw [endsInSlash, beq_iff_eq] at h
    exact List.getLast?_eq_some_iff.1 h
  refine ⟨String.ofList front, String.toList_inj.1 ?_⟩
  rw [hfront, String.toList_append, String.toList_ofList]
  rfl

/-- A text of names is not absolute. -/
theorem isAbsolute_intercalate {steps : List String}
    (h : ∀ step ∈ steps, step ≠ "" ∧ '/' ∉ step.toList) :
    isAbsolute (String.intercalate "/" steps) = false := by
  cases steps with
  | nil => rfl
  | cons step steps =>
      obtain ⟨hne, hslash⟩ := h step List.mem_cons_self
      have hhead : isAbsolute step = false := by
        rw [← Bool.not_eq_true, isAbsolute_iff]
        exact fun heq => hslash (List.mem_of_mem_head? heq)
      by_cases hlast : steps = []
      · rw [hlast, String.intercalate_singleton, hhead]
      · rw [String.intercalate_cons_of_ne_nil hlast, String.append_assoc, isAbsolute_append hne,
          hhead]

/-! ## Paths below a directory -/

/-- A path that is not absolute stands behind the directory and a slash, which may be there
already. -/
theorem join_cases (directory : String) {path : String} (h : isAbsolute path = false) :
    (directory = "" ∧ join directory path = path) ∨
      (∃ front, directory = front ++ "/" ∧ join directory path = front ++ "/" ++ path) ∨
      (directory ≠ "" ∧ join directory path = directory ++ "/" ++ path) := by
  rw [join, h]
  by_cases hempty : directory = ""
  · exact .inl ⟨hempty, by simp [hempty]⟩
  · by_cases hslash : endsInSlash directory = true
    · obtain ⟨front, rfl⟩ := exists_of_endsInSlash hslash
      exact .inr (.inl ⟨front, rfl, by simp [hslash]⟩)
    · exact .inr (.inr ⟨hempty, by simp [hempty, hslash]⟩)

/-- The names of a path below a directory. -/
theorem names_join (directory : String) {path : String} (h : isAbsolute path = false) :
    names (join directory path) = names directory ++ names path := by
  rcases join_cases directory h with
    ⟨rfl, hjoin⟩ | ⟨front, rfl, hjoin⟩ | ⟨_, hjoin⟩
  · rw [hjoin]
    rfl
  · have hdirectory : names (front ++ "/") = names front := by
      have happend := names_append_slash front ""
      simpa [names_empty] using happend
    rw [hjoin, names_append_slash, hdirectory]
  · rw [hjoin, names_append_slash]

/-- A path below a directory starts where the directory starts. -/
theorem isAbsolute_join (directory : String) {path : String} (h : isAbsolute path = false) :
    isAbsolute (join directory path) = isAbsolute directory := by
  rcases join_cases directory h with
    ⟨rfl, hjoin⟩ | ⟨front, rfl, hjoin⟩ | ⟨hne, hjoin⟩
  · rw [hjoin, h]
    rfl
  · have hne : front ++ "/" ≠ "" := by simp
    rw [hjoin, isAbsolute_append hne]
  · rw [hjoin, String.append_assoc, isAbsolute_append hne]

/-- The text of a path below a directory begins with the directory and ends with the path. -/
theorem exists_join_eq (directory : String) {path : String} (h : isAbsolute path = false) :
    ∃ between, join directory path = directory ++ between ++ path := by
  rcases join_cases directory h with
    ⟨rfl, hjoin⟩ | ⟨front, rfl, hjoin⟩ | ⟨_, hjoin⟩
  · exact ⟨"", by simp [hjoin]⟩
  · exact ⟨"", by simp [hjoin]⟩
  · exact ⟨"/", hjoin⟩

/-! ## Steps -/

/-- The first piece of a path below a directory is that of the directory. -/
private theorem head_pieces_join {directory path : String} (hne : directory ≠ "")
    (h : isAbsolute path = false) :
    (pieces (join directory path)).head? = (pieces directory).head? := by
  have hfront (front rest : String) :
      (pieces (front ++ "/" ++ rest)).head? = (pieces front).head? := by
    rw [pieces_append_slash, List.head?_append_of_ne_nil _ (pieces_ne_nil front)]
  rcases join_cases directory h with
    ⟨hempty, _⟩ | ⟨front, rfl, hjoin⟩ | ⟨_, hjoin⟩
  · exact absurd hempty hne
  · have hdirectory := hfront front ""
    rw [String.append_empty] at hdirectory
    rw [hjoin, hfront, hdirectory]
  · rw [hjoin, hfront]

private theorem segments_intercalate {steps : List String} (h : ∀ step ∈ steps, IsEntryName step) :
    segments (String.intercalate "/" steps) = steps := by
  have hnames := names_intercalate fun step hstep => (h step hstep).isPiece
  rw [segments, hnames]
  exact List.filter_eq_self.2 fun step hstep => by simpa using (h step hstep).ne_here

/-- The steps of a path below a directory that is made of entry names. -/
theorem steps_join {directory : String} {below : List String}
    (h : ∀ step ∈ below, IsEntryName step) :
    steps (join directory (String.intercalate "/" below)) = steps directory ++ below := by
  have hrelative := isAbsolute_intercalate fun step hstep =>
    (h step hstep).isPiece
  by_cases hempty : directory = ""
  · have hjoin : join "" (String.intercalate "/" below) = String.intercalate "/" below := by
      rw [join, hrelative]
      simp
    have hsegments := segments_intercalate h
    have hhead : (pieces (String.intercalate "/" below)).head? ≠ some "." := by
      cases below with
      | nil => decide
      | cons step below =>
          rw [pieces_intercalate (by simp) fun step hstep => (h step hstep).noSlash]
          simpa using (h step List.mem_cons_self).ne_here
    rw [hempty, hjoin, steps, if_neg hhead, hsegments]
    rfl
  · have hsegments : segments (join directory (String.intercalate "/" below)) =
        segments directory ++ below := by
      have hbelow := segments_intercalate h
      rw [segments, names_join _ hrelative, List.filter_append]
      rw [segments] at hbelow
      rw [hbelow]
      rfl
    rw [steps, steps, head_pieces_join hempty hrelative, hsegments]
    split <;> simp

/-- The steps of a path are names. -/
theorem noSlash_of_mem_steps {path step : String} (h : step ∈ steps path) :
    step ≠ "" ∧ '/' ∉ step.toList := by
  have hsegment {step : String} (h : step ∈ segments path) : step ≠ "" ∧ '/' ∉ step.toList :=
    noSlash_of_mem_names (List.mem_filter.1 h).1
  rw [steps] at h
  split at h
  · rcases List.mem_cons.1 h with rfl | h
    · decide
    · exact hsegment h
  · exact hsegment h

/-! ## The path of some steps -/

theorem names_ofSteps (absolute : Bool) {steps : List String}
    (h : ∀ step ∈ steps, step ≠ "" ∧ '/' ∉ step.toList) :
    names (ofSteps absolute steps) = steps := by
  have hnames := names_intercalate h
  cases absolute with
  | false => simpa [ofSteps] using hnames
  | true =>
      have hslash := names_append_slash "" (String.intercalate "/" steps)
      rw [names_empty, List.nil_append, hnames, String.empty_append] at hslash
      simpa [ofSteps] using hslash

theorem isAbsolute_ofSteps {absolute : Bool} {steps : List String}
    (h : ∀ step ∈ steps, step ≠ "" ∧ '/' ∉ step.toList) :
    isAbsolute (ofSteps absolute steps) = absolute := by
  cases absolute with
  | false => simpa [ofSteps] using isAbsolute_intercalate h
  | true => simp [ofSteps, isAbsolute]

/-- Fewer pieces make a text that is part of the text of all. -/
private theorem intercalate_sublist {some all : List (List Char)} (h : some.Sublist all) :
    (List.intercalate ['/'] some).Sublist (List.intercalate ['/'] all) := by
  induction h with
  | slnil => simp
  | @cons some all piece _ ih =>
      by_cases hall : all = []
      · have hnil : List.intercalate ['/'] some = [] := by simpa [hall] using ih
        simp [hnil]
      · rw [List.intercalate_cons_of_ne_nil hall]
        exact ih.trans (List.sublist_append_right _ _)
  | @cons_cons some all piece hsub ih =>
      by_cases hall : all = []
      · have hsome : some = [] := List.sublist_nil.1 (hall ▸ hsub)
        rw [hall, hsome]
      · rw [List.intercalate_cons_of_ne_nil hall]
        by_cases hsome : some = []
        · rw [hsome, List.intercalate_singleton, List.append_assoc]
          exact List.sublist_append_left _ _
        · rw [List.intercalate_cons_of_ne_nil hsome]
          exact List.Sublist.append_left ih _

/-- The steps of a path are among its pieces. -/
private theorem steps_sublist_pieces (path : String) : (steps path).Sublist (pieces path) := by
  have hsegments : (segments path).Sublist (pieces path) :=
    List.filter_sublist.trans List.filter_sublist
  rw [steps]
  split
  · next hhead =>
      obtain ⟨rest, hrest⟩ : ∃ rest, pieces path = "." :: rest := List.head?_eq_some_iff.1 hhead
      have htail : segments path = (rest.filter (· != "")).filter (· != ".") := by
        simp [segments, names, hrest]
      rw [htail, hrest]
      exact (List.filter_sublist.trans List.filter_sublist).cons_cons _
  · exact hsegments

/-- A path of some of the steps of a path is part of its text. -/
theorem ofSteps_sublist {path : String} {some : List String} (h : some.Sublist (steps path)) :
    (ofSteps (isAbsolute path) some).toList.Sublist path.toList := by
  have hpath : path.toList = List.intercalate ['/'] ((pieces path).map String.toList) := by
    have htext := congrArg String.toList (intercalate_pieces path)
    rw [String.toList_intercalate] at htext
    exact htext.symm
  have hsome : some.Sublist (pieces path) := h.trans (steps_sublist_pieces path)
  cases habsolute : isAbsolute path with
  | false =>
      have hsub := intercalate_sublist (hsome.map String.toList)
      rw [hpath]
      simpa [ofSteps, String.toList_intercalate] using hsub
  | true =>
      -- The first piece of an absolute path is the empty one in front of its slash.
      obtain ⟨rest, hrest⟩ : ∃ rest, path.toList = '/' :: rest :=
        List.head?_eq_some_iff.1 (isAbsolute_iff.1 habsolute)
      have hpieces : pieces path = "" :: pieces (String.ofList rest) := by
        simp [pieces, hrest, Text.splitOn, Text.splitWhen]
      have hbelow : some.Sublist (pieces (String.ofList rest)) := by
        have hempty : "" ∉ some := fun hmem => (noSlash_of_mem_steps (h.subset hmem)).1 rfl
        rw [hpieces] at hsome
        cases hsome with
        | cons _ hsome => exact hsome
        | cons_cons _ hsome => exact absurd List.mem_cons_self hempty
      have hsub := intercalate_sublist (hbelow.map String.toList)
      have hjoined : List.intercalate ['/'] ((pieces (String.ofList rest)).map String.toList) =
          rest := by
        have htext := congrArg String.toList (intercalate_pieces (String.ofList rest))
        rw [String.toList_intercalate] at htext
        exact htext.trans String.toList_ofList
      rw [hjoined] at hsub
      rw [hrest]
      simpa [ofSteps, String.toList_intercalate] using hsub

/-! ## Ancestors -/

/-- The paths of fewer and fewer of some steps; the working directory is left out. -/
def ancestors (absolute : Bool) (steps : List String) : List String :=
  ((List.range steps.length).reverse.map fun count => ofSteps absolute (steps.take count)).filter
    (· != "")

theorem parents_eq (path : String) : parents path = ancestors (isAbsolute path) (steps path) := rfl

/-- One step more has the path of the others as its nearest ancestor. -/
theorem ancestors_concat {absolute : Bool} {steps : List String} (step : String)
    (h : ofSteps absolute steps ≠ "") :
    ancestors absolute (steps ++ [step]) =
      ofSteps absolute steps :: ancestors absolute steps := by
  have htake : ((List.range steps.length).reverse.map fun count =>
      ofSteps absolute ((steps ++ [step]).take count)) =
        (List.range steps.length).reverse.map fun count => ofSteps absolute (steps.take count) := by
    refine List.map_congr_left fun count hcount => ?_
    have hlt : count < steps.length := by simpa using hcount
    rw [List.take_append_of_le_length (Nat.le_of_lt hlt)]
  rw [ancestors, List.length_append, List.length_singleton, List.range_succ, List.reverse_append,
    List.map_append, htake]
  simp [ancestors, h]

end ClusterEvidence.Path
