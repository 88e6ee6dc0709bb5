import ClusterEvidence.Content.Loading

/-!
# Waiting for a file that others are writing

A wait looks at a file, reads it if there is something to read, and sleeps otherwise. Between any
two of these steps another program may create, write, truncate, rename or remove the file, and at
any moment the time may be up. The theorems here are about every order of such events.

A file that is missing when it is looked at is waited for. A file that is missing when it is read,
because it was removed after the look, is not: that ends the wait with the failure. This is the only
way for a missing file to end a wait, so a wait ends as it should exactly if no read comes upon a
missing file.

## Main results

* `act_ended_iff`: what one event ends.
* `foldl_ended_iff`: a run is over if and only if one of its events ended it, and then for good.
* `run_eq_noSuchFile_iff`: when a missing file ends a wait.
* `run_rounds`, `run_eq_wait`: rounds taken step by step give what `wait` gives, and a run gives
  what `wait` gives for its rounds.
* `run_endings`: all of this about a run.
-/

namespace ClusterEvidence.Content.Waiting

variable {path : String} {seconds : Nat} {files : FileSystem} {waiting : Waiting}
  {event : Event} {events : List Event} {result : Except Error Bytes}

/-! ## What one event ends -/

/-- A wait that has its result. -/
def IsOver (waiting : Waiting) : Prop := ∃ result, waiting.stage = .ended result

/-- An event that ends a wait, and how. A fault that a read meets may be any; of those that a look
meets, a missing file is none. -/
inductive Ends (path : String) (seconds : Nat) :
    Waiting → Event → Except Error Bytes → Prop
  | contents {files : FileSystem} {contents : Bytes} (hread : files.readFile path = .ok contents)
      (hne : contents ≠ []) : Ends path seconds ⟨files, .reading⟩ .step (.ok contents)
  | readFault {files : FileSystem} {fault : FileFault}
      (hread : files.readFile path = .error fault) :
      Ends path seconds ⟨files, .reading⟩ .step (.error (.file fault))
  | lookFault {files : FileSystem} {fault : FileFault} (hlook : files.lookUp path = .error fault)
      (hfault : fault ≠ .noSuchFile) :
      Ends path seconds ⟨files, .looking⟩ .step (.error (.file fault))
  | timeout {waiting : Waiting} (hgoing : ¬ waiting.IsOver) :
      Ends path seconds waiting .expire (.error (.contentTimeout path seconds))

private theorem Ends.going (h : Ends path seconds waiting event result) : ¬ waiting.IsOver := by
  cases h with
  | timeout hgoing => exact hgoing
  | _ =>
      rintro ⟨result, hresult⟩
      cases hresult

/-- A look goes on to read, goes to sleep, or ends the wait. -/
private theorem advance_looking_ended_iff :
    advance path files .looking = .ended result ↔
      ∃ fault, files.lookUp path = .error fault ∧ fault ≠ .noSuchFile ∧
        result = .error (.file fault) := by
  rw [advance]
  split
  next hlook => simp [hlook]
  next fault hfault hlook =>
    rw [hlook]
    constructor
    · rintro ⟨⟩
      exact ⟨fault, rfl, hfault, rfl⟩
    · rintro ⟨_, ⟨⟩, -, rfl⟩
      rfl
  next entry hlook =>
    have hneither : (if hasContents entry then Stage.reading else .sleeping) ≠ .ended result := by
      split <;> exact nofun
    simp [hlook, hneither]

/-- A read goes to sleep or ends the wait. -/
private theorem advance_reading_ended_iff :
    advance path files .reading = .ended result ↔
      (∃ contents, files.readFile path = .ok contents ∧ contents ≠ [] ∧ result = .ok contents) ∨
        ∃ fault, files.readFile path = .error fault ∧ result = .error (.file fault) := by
  rw [advance]
  cases files.readFile path with
  | error fault =>
      constructor
      · rintro ⟨⟩
        exact .inr ⟨fault, rfl, rfl⟩
      · rintro (⟨_, ⟨⟩, -⟩ | ⟨_, ⟨⟩, rfl⟩)
        rfl
  | ok contents =>
      by_cases hempty : contents = []
      · simp [hempty]
      · have hended : (if contents.isEmpty = true then Stage.sleeping else .ended (.ok contents)) =
            .ended (.ok contents) := if_neg (by simpa using hempty)
        dsimp only
        rw [hended]
        constructor
        · rintro ⟨⟩
          exact .inl ⟨contents, rfl, hempty, rfl⟩
        · rintro (⟨_, ⟨⟩, -, rfl⟩ | ⟨_, ⟨⟩, -⟩)
          rfl

/-- One event: it ends a wait in one of the ways of `Ends` or not at all. -/
theorem act_ended_iff (hgoing : ¬ waiting.IsOver) :
    (act path seconds waiting event).stage = .ended result ↔
      Ends path seconds waiting event result := by
  obtain ⟨files, stage⟩ := waiting
  have hstage : ∀ result, stage ≠ .ended result := fun result h => hgoing ⟨result, h⟩
  cases event with
  | change later =>
      constructor
      · exact fun h => absurd h (hstage result)
      · exact nofun
  | expire =>
      have hexpire : expire path seconds stage =
          .ended (.error (.contentTimeout path seconds)) := by
        cases stage with
        | ended result => exact absurd rfl (hstage result)
        | _ => rfl
      change expire path seconds stage = .ended result ↔ _
      rw [hexpire]
      constructor
      · intro h
        cases h
        exact .timeout hgoing
      · intro h
        cases h
        rfl
  | step =>
      change advance path files stage = .ended result ↔ _
      cases stage with
      | looking =>
          rw [advance_looking_ended_iff]
          constructor
          · rintro ⟨fault, hlook, hfault, rfl⟩
            exact .lookFault hlook hfault
          · intro h
            cases h with
            | lookFault hlook hfault => exact ⟨_, hlook, hfault, rfl⟩
      | reading =>
          rw [advance_reading_ended_iff]
          constructor
          · rintro (⟨contents, hread, hne, rfl⟩ | ⟨fault, hread, rfl⟩)
            · exact .contents hread hne
            · exact .readFault hread
          · intro h
            cases h with
            | contents hread hne => exact .inl ⟨_, hread, hne, rfl⟩
            | readFault hread => exact .inr ⟨_, hread, rfl⟩
      | sleeping =>
          constructor
          · exact nofun
          · exact nofun
      | ended result => exact absurd rfl (hstage result)

/-! ## What ends a run -/

/-- What is over stays as it is. -/
private theorem act_of_ended (h : waiting.stage = .ended result) (event : Event) :
    (act path seconds waiting event).stage = .ended result := by
  cases event with
  | change files => exact h
  | step | expire => simp only [act, h, advance, expire]

private theorem foldl_of_ended (h : waiting.stage = .ended result) (events : List Event) :
    (events.foldl (act path seconds) waiting).stage = .ended result := by
  induction events generalizing waiting with
  | nil => exact h
  | cons event events ih => exact ih (act_of_ended h event)

/-- Many events: the first of them that ends a wait decides, whatever follows. -/
theorem foldl_ended_iff (hgoing : ¬ waiting.IsOver) :
    (events.foldl (act path seconds) waiting).stage = .ended result ↔
      ∃ front event back, events = front ++ event :: back ∧
        Ends path seconds (front.foldl (act path seconds) waiting) event result := by
  constructor
  · intro h
    induction events generalizing waiting with
    | nil => exact absurd ⟨result, h⟩ hgoing
    | cons event events ih =>
        rw [List.foldl_cons] at h
        by_cases hnext : (act path seconds waiting event).IsOver
        · obtain ⟨first, hfirst⟩ := hnext
          have hsame : first = result := by
            rw [foldl_of_ended hfirst] at h
            injection h
          rw [hsame] at hfirst
          exact ⟨[], event, events, rfl, (act_ended_iff hgoing).mp hfirst⟩
        · obtain ⟨front, last, back, rfl, hends⟩ := ih hnext h
          exact ⟨event :: front, last, back, rfl, hends⟩
  · rintro ⟨front, event, back, rfl, hends⟩
    rw [List.foldl_append, List.foldl_cons]
    exact foldl_of_ended ((act_ended_iff hends.going).mpr hends) back

/-- Where a run comes to, and what happens next there. -/
def Meets (path : String) (seconds : Nat) (files : FileSystem) (events : List Event)
    (waiting : Waiting) (event : Event) : Prop :=
  ∃ front back, events = front ++ event :: back ∧ run path seconds files front = waiting

private theorem run_ended_iff :
    (run path seconds files events).stage = .ended result ↔
      ∃ waiting event, Meets path seconds files events waiting event ∧
        Ends path seconds waiting event result := by
  have hgoing : ¬ IsOver ⟨files, .looking⟩ := nofun
  rw [run, foldl_ended_iff hgoing]
  constructor
  · rintro ⟨front, event, back, hevents, hends⟩
    exact ⟨_, event, ⟨front, back, hevents, rfl⟩, hends⟩
  · rintro ⟨waiting, event, ⟨front, back, hevents, rfl⟩, hends⟩
    exact ⟨front, event, back, hevents, hends⟩

/-! ## A missing file -/

/-- A file cannot be read for being missing exactly if there is none. -/
private theorem readFile_eq_noSuchFile_iff :
    files.readFile path = .error .noSuchFile ↔ files.lookUp path = .error .noSuchFile := by
  rw [FileSystem.readFile]
  cases files.lookUp path with
  | error fault => simp [bind, Except.bind]
  | ok entry => cases entry <;> exact ⟨nofun, nofun⟩

/-- A read that comes upon a missing file. The look before it found one. -/
def ReadsMissing (path : String) (seconds : Nat) (files : FileSystem) (events : List Event) :
    Prop :=
  ∃ now, Meets path seconds files events ⟨now, .reading⟩ .step ∧
    now.lookUp path = .error .noSuchFile

/-- A missing file ends a wait if and only if a read comes upon it. -/
theorem run_eq_noSuchFile_iff :
    (run path seconds files events).stage = .ended (.error (.file .noSuchFile)) ↔
      ReadsMissing path seconds files events := by
  rw [run_ended_iff]
  constructor
  · rintro ⟨waiting, event, hmeets, hends⟩
    cases hends with
    | readFault hread => exact ⟨_, hmeets, readFile_eq_noSuchFile_iff.mp hread⟩
    | lookFault hlook hfault => exact absurd rfl hfault
  · rintro ⟨now, hmeets, hmissing⟩
    exact ⟨_, _, hmeets, .readFault (readFile_eq_noSuchFile_iff.mpr hmissing)⟩

/-- The ways in which a wait should end: with what one read gave, with a fault other than a missing
file, or because the time is up. -/
inductive IsProper (path : String) (seconds : Nat) (files : FileSystem) (events : List Event) :
    Except Error Bytes → Prop
  | contents {now : FileSystem} {contents : Bytes}
      (hmeets : Meets path seconds files events ⟨now, .reading⟩ .step)
      (hread : now.readFile path = .ok contents) (hne : contents ≠ []) :
      IsProper path seconds files events (.ok contents)
  | fault {fault : FileFault} (hfault : fault ≠ .noSuchFile) :
      IsProper path seconds files events (.error (.file fault))
  | timeout (hexpire : .expire ∈ events) :
      IsProper path seconds files events (.error (.contentTimeout path seconds))

/-- An event of a run ends it as it should, unless it is a read that comes upon a missing file. -/
private theorem isProper_of_ends (hread : ¬ ReadsMissing path seconds files events)
    (hmeets : Meets path seconds files events waiting event)
    (hends : Ends path seconds waiting event result) :
    IsProper path seconds files events result := by
  cases hends with
  | contents hcontents hne => exact .contents hmeets hcontents hne
  | lookFault hlook hfault => exact .fault hfault
  | timeout hgoing =>
      obtain ⟨front, back, rfl, -⟩ := hmeets
      exact .timeout (List.mem_append_right front List.mem_cons_self)
  | readFault hfault =>
      refine .fault fun hmissing => hread ⟨_, hmeets, ?_⟩
      exact readFile_eq_noSuchFile_iff.mp (hmissing ▸ hfault)

/-- Three steps are enough for a wait to find what is there. -/
private theorem foldl_three_steps {contents : Bytes} (hgoing : ¬ waiting.IsOver)
    (hread : waiting.files.readFile path = .ok contents) (hne : contents ≠ []) :
    ([Event.step, .step, .step].foldl (act path seconds) waiting).stage =
      .ended (.ok contents) := by
  obtain ⟨files, stage⟩ := waiting
  have hreading : advance path files .reading = .ended (.ok contents) :=
    advance_reading_ended_iff.mpr (.inl ⟨contents, hread, hne, rfl⟩)
  have hlooking : advance path files .looking = .reading := by
    obtain ⟨mode, hlook⟩ : ∃ mode, files.lookUp path = .ok (.file mode contents) := by
      change files.readFile path = .ok contents at hread
      rw [FileSystem.readFile] at hread
      cases hentry : files.lookUp path with
      | error fault => simp [hentry, bind, Except.bind] at hread
      | ok entry =>
          cases entry with
          | directory mode => simp [hentry, bind, Except.bind] at hread
          | file mode found =>
              simp only [hentry, bind, Except.bind, Except.ok.injEq] at hread
              exact ⟨mode, by rw [hread]⟩
    simp [advance, hlook, hasContents, hne]
  have hsleeping : advance path files .sleeping = .looking := rfl
  have hover (result : Except Error Bytes) :
      advance path files (.ended result) = .ended result := rfl
  cases stage with
  | looking | reading | sleeping =>
      simp only [List.foldl_cons, List.foldl_nil, act, hsleeping, hlooking, hreading, hover]
  | ended result => exact absurd ⟨result, rfl⟩ hgoing

/-! ## Rounds -/

/-- Whether a look finds something to read. -/
def seesContents (path : String) (files : FileSystem) : Bool :=
  match files.lookUp path with
  | .ok entry => hasContents entry
  | .error _ => false

/-- Where a wait is after what a round found. -/
def afterFinding : Finding → Stage
  | .ready contents => .ended (.ok contents)
  | .failed fault => .ended (.error (.file fault))
  | .notYet => .sleeping

private theorem advance_looking_of_sees (h : seesContents path files = true) :
    advance path files .looking = .reading := by
  rw [seesContents] at h
  cases hlook : files.lookUp path with
  | error fault => simp [hlook] at h
  | ok entry =>
      rw [hlook] at h
      simp only [advance, hlook, if_pos h]

/-- A look that finds nothing to read is a round by itself. -/
private theorem advance_looking_of_not_sees (h : seesContents path files = false)
    (later : FileSystem) :
    advance path files .looking = afterFinding ((Round.mk files later).find path) := by
  rw [seesContents] at h
  rw [Round.find]
  cases hlook : files.lookUp path with
  | error fault => cases fault <;> simp [advance, hlook, afterFinding]
  | ok entry =>
      rw [hlook] at h
      dsimp only at h
      simp [advance, hlook, h, afterFinding]

/-- A look that finds something to read and the read make a round. -/
private theorem advance_reading_of_saw {look : FileSystem} (h : seesContents path look = true) :
    advance path files .reading = afterFinding ((Round.mk look files).find path) := by
  rw [seesContents] at h
  rw [Round.find]
  cases hlook : look.lookUp path with
  | error fault => simp [hlook] at h
  | ok entry =>
      rw [hlook] at h
      dsimp only at h
      simp only [h, if_true, Round.readAgain, advance]
      cases files.readFile path with
      | error fault => rfl
      | ok contents => cases hempty : contents.isEmpty <;> simp [hempty, afterFinding]

/-- A round as events: the look, the read if there is something to read, and waking up. -/
def roundEvents (path : String) (round : Round) : List Event :=
  if seesContents path round.look then
    [.change round.look, .step, .change round.read, .step, .step]
  else [.change round.look, .step, .step]

private theorem foldl_roundEvents (round : Round) :
    ((roundEvents path round).foldl (act path seconds) ⟨files, .looking⟩).stage =
      advance path round.read (afterFinding (round.find path)) := by
  have hawake (files later : FileSystem) (finding : Finding) :
      advance path files (afterFinding finding) = advance path later (afterFinding finding) := by
    cases finding <;> rfl
  cases hsees : seesContents path round.look with
  | true =>
      simp only [roundEvents, hsees, if_true, List.foldl_cons, List.foldl_nil, act,
        advance_looking_of_sees hsees, advance_reading_of_saw hsees]
  | false =>
      simp only [roundEvents, hsees, Bool.false_eq_true, if_false, List.foldl_cons, List.foldl_nil,
        act, advance_looking_of_not_sees hsees round.read]
      exact hawake _ _ _

/-- Rounds one after another, and then the end of the time, give what `wait` gives. -/
theorem run_rounds (path : String) (seconds : Nat) (files : FileSystem) (rounds : List Round) :
    (run path seconds files (rounds.flatMap (roundEvents path) ++ [.expire])).stage =
      .ended (wait path seconds rounds) := by
  rw [run]
  induction rounds generalizing files with
  | nil => rfl
  | cons round rounds ih =>
      rw [List.flatMap_cons, List.append_assoc, List.foldl_append, wait]
      have hround := @foldl_roundEvents path seconds files round
      cases hfind : round.find path with
      | ready contents =>
          rw [hfind] at hround
          exact foldl_of_ended hround _
      | failed fault =>
          rw [hfind] at hround
          exact foldl_of_ended hround _
      | notYet =>
          rw [hfind] at hround
          generalize (roundEvents path round).foldl (act path seconds) ⟨files, .looking⟩ = next
            at hround
          obtain ⟨later, stage⟩ := next
          obtain rfl : stage = .looking := hround
          exact ih later

/-- A wait with the rounds that it has finished and the file system at its last look. -/
structure Logged where
  waiting : Waiting
  look : FileSystem
  rounds : List Round

/-- What becomes of a logged wait by an event. A look that finds nothing to read is a round by
itself. -/
def Logged.act (path : String) (seconds : Nat) (logged : Logged) (event : Event) : Logged :=
  let files := logged.waiting.files
  let after := Waiting.act path seconds logged.waiting event
  match event, logged.waiting.stage with
  | .step, .looking =>
      if seesContents path files then ⟨after, files, logged.rounds⟩
      else ⟨after, files, logged.rounds ++ [⟨files, files⟩]⟩
  | .step, .reading => ⟨after, logged.look, logged.rounds ++ [⟨logged.look, files⟩]⟩
  | _, _ => { logged with waiting := after }

/-- The rounds that a run has finished. -/
def roundsOf (path : String) (seconds : Nat) (files : FileSystem) (events : List Event) :
    List Round :=
  (events.foldl (Logged.act path seconds) ⟨⟨files, .looking⟩, files, []⟩).rounds

/-- The log takes no part in the wait. -/
private theorem Logged.act_waiting (logged : Logged) (event : Event) :
    (logged.act path seconds event).waiting = logged.waiting.act path seconds event := by
  obtain ⟨⟨files, stage⟩, look, rounds⟩ := logged
  cases event with
  | change files => rfl
  | expire => rfl
  | step =>
      cases stage with
      | looking =>
          simp only [Logged.act]
          split <;> rfl
      | _ => rfl

private theorem Logged.foldl_waiting (logged : Logged) (events : List Event) :
    (events.foldl (Logged.act path seconds) logged).waiting =
      events.foldl (Waiting.act path seconds) logged.waiting := by
  induction events generalizing logged with
  | nil => rfl
  | cons event events ih => rw [List.foldl_cons, ih, Logged.act_waiting, List.foldl_cons]

/-- That the rounds account for where the wait is: they have found nothing until it is over, and
then give its result. -/
def Logged.Accounts (path : String) (seconds : Nat) (logged : Logged) : Prop :=
  match logged.waiting.stage with
  | .looking | .sleeping => ∀ round ∈ logged.rounds, round.find path = .notYet
  | .reading =>
      (∀ round ∈ logged.rounds, round.find path = .notYet) ∧ seesContents path logged.look = true
  | .ended result => wait path seconds logged.rounds = result

private theorem wait_append {rounds : List Round} (h : ∀ round ∈ rounds, round.find path = .notYet)
    (later : List Round) : wait path seconds (rounds ++ later) = wait path seconds later := by
  induction rounds with
  | nil => rfl
  | cons round rounds ih =>
      rw [List.cons_append, wait, h round List.mem_cons_self]
      exact ih fun round hround => h round (List.mem_cons_of_mem _ hround)

private theorem wait_of_fruitless {rounds : List Round}
    (h : ∀ round ∈ rounds, round.find path = .notYet) :
    wait path seconds rounds = .error (.contentTimeout path seconds) := by
  have happend := @wait_append path seconds rounds h []
  rwa [List.append_nil] at happend

/-- A round after fruitless ones: with what it finds the wait is over or goes on. -/
private theorem accounts_append {rounds : List Round} {round : Round} {look : FileSystem}
    {stage : Stage} (hrounds : ∀ round ∈ rounds, round.find path = .notYet)
    (hstage : stage = afterFinding (round.find path)) :
    Logged.Accounts path seconds ⟨⟨files, stage⟩, look, rounds ++ [round]⟩ := by
  subst hstage
  cases hfind : round.find path with
  | ready contents =>
      change wait path seconds (rounds ++ [round]) = .ok contents
      rw [wait_append hrounds, wait, hfind]
  | failed fault =>
      change wait path seconds (rounds ++ [round]) = .error (.file fault)
      rw [wait_append hrounds, wait, hfind]
  | notYet =>
      intro earlier hearlier
      rcases List.mem_append.mp hearlier with hold | hnew
      · exact hrounds earlier hold
      · rw [List.mem_singleton.mp hnew, hfind]

/-- One event keeps the account. -/
private theorem act_accounts {logged : Logged} (h : logged.Accounts path seconds) (event : Event) :
    (logged.act path seconds event).Accounts path seconds := by
  obtain ⟨⟨files, stage⟩, look, rounds⟩ := logged
  cases event with
  | change later => exact h
  | expire =>
      cases stage with
      | looking | sleeping => exact wait_of_fruitless h
      | reading => exact wait_of_fruitless h.1
      | ended result => exact h
  | step =>
      cases stage with
      | looking =>
          cases hsees : seesContents path files with
          | true =>
              have hadvance := advance_looking_of_sees hsees
              simp only [Logged.act, act, hsees, if_true, hadvance]
              exact ⟨h, hsees⟩
          | false =>
              simp only [Logged.act, act, hsees]
              exact accounts_append h (advance_looking_of_not_sees hsees files)
      | reading => exact accounts_append h.1 (advance_reading_of_saw h.2)
      | sleeping => exact h
      | ended result => exact h

private theorem foldl_accounts {logged : Logged} (h : logged.Accounts path seconds)
    (events : List Event) :
    (events.foldl (Logged.act path seconds) logged).Accounts path seconds := by
  induction events generalizing logged with
  | nil => exact h
  | cons event events ih => exact ih (act_accounts h event)

/-- What a run ends with is what `wait` gives for its rounds. -/
theorem run_eq_wait (h : (run path seconds files events).stage = .ended result) :
    wait path seconds (roundsOf path seconds files events) = result := by
  have hstart : Logged.Accounts path seconds ⟨⟨files, .looking⟩, files, []⟩ := nofun
  have haccounts := foldl_accounts hstart events
  rw [Logged.Accounts, Logged.foldl_waiting] at haccounts
  rw [run] at h
  rw [h] at haccounts
  exact haccounts

/-! ## Runs -/

/-- How a run ends. -/
structure Endings (path : String) (seconds : Nat) (files : FileSystem) (events : List Event) :
    Prop where
  /-- It has a result exactly if one of its events ended it, and that event decides. -/
  ended_iff : ∀ result, (run path seconds files events).stage = .ended result ↔
    ∃ waiting event, Meets path seconds files events waiting event ∧
      Ends path seconds waiting event result
  /-- A missing file ends it exactly if a read comes upon it. -/
  missing_iff : (run path seconds files events).stage = .ended (.error (.file .noSuchFile)) ↔
    ReadsMissing path seconds files events
  /-- It ends as it should or not at all, exactly if no read comes upon a missing file. -/
  proper_iff : (∀ result, (run path seconds files events).stage = .ended result →
      IsProper path seconds files events result) ↔
    ¬ ReadsMissing path seconds files events
  /-- While it is not over, whatever it has met so far, it finds contents in three steps. -/
  found : ∀ contents, ¬ (run path seconds files events).IsOver →
    (run path seconds files events).files.readFile path = .ok contents → contents ≠ [] →
    (run path seconds files (events ++ [.step, .step, .step])).stage = .ended (.ok contents)
  /-- Its result is what `wait` gives for its rounds. -/
  eq_wait : ∀ result, (run path seconds files events).stage = .ended result →
    wait path seconds (roundsOf path seconds files events) = result

theorem run_endings (path : String) (seconds : Nat) (files : FileSystem) (events : List Event) :
    Endings path seconds files events where
  ended_iff _ := run_ended_iff
  missing_iff := run_eq_noSuchFile_iff
  proper_iff := by
    constructor
    · intro hproper hmissing
      cases hproper _ (run_eq_noSuchFile_iff.mpr hmissing) with
      | fault hfault => exact hfault rfl
    · intro hmissing result hended
      obtain ⟨waiting, event, hmeets, hends⟩ := run_ended_iff.mp hended
      exact isProper_of_ends hmissing hmeets hends
  found contents hgoing hread hne := by
    rw [run, List.foldl_append]
    exact foldl_three_steps hgoing hread hne
  eq_wait _ := run_eq_wait

/-- A file that is removed between the look and the read ends the wait, although it is only
missing. -/
theorem run_missing :
    (run "ds.xml" 60 ⟨[(["ds.xml"], .file 0o644 [60])], []⟩
          [.step, .change ⟨[], []⟩, .step]).stage =
        .ended (.error (.file .noSuchFile)) ∧
      ¬ IsProper "ds.xml" 60 ⟨[(["ds.xml"], .file 0o644 [60])], []⟩
        [.step, .change ⟨[], []⟩, .step] (.error (.file .noSuchFile)) := by
  refine ⟨rfl, ?_⟩
  intro h
  cases h with
  | fault hfault => exact hfault rfl

end ClusterEvidence.Content.Waiting
