import ClusterEvidence.Content.Document
import ClusterEvidence.FileSystem.Basic

/-!
# Waiting for content

Content is written by another program, which may still be at work. So a file is looked at in rounds:
while it is missing or empty, another round follows after a while, until the time is up. Any other
failure ends the wait.

A round looks at the file first and reads it afterwards, and the file system may have changed in
between. `wait` goes through whole rounds. `Waiting.run` takes a wait step by step instead, with
what other programs do to the files between any two of its steps and with the time running out at
any of them.
-/

namespace ClusterEvidence.Content

/-- The file system at the two moments of a round. -/
structure Round where
  /-- When the file is looked at. -/
  look : FileSystem
  /-- When it is read, if there is something to read. -/
  read : FileSystem

/-- What a round finds. -/
inductive Finding where
  | ready (contents : Bytes)
  | failed (fault : FileFault)
  | notYet
  deriving DecidableEq, Repr

/-- Whether there is something to read. -/
def hasContents : Entry → Bool
  | .file _ contents => !contents.isEmpty
  | .directory _ => true

/-- Reads a file in which there was something. -/
def Round.readAgain (round : Round) (path : String) : Finding :=
  match round.read.readFile path with
  | .error fault => .failed fault
  | .ok contents => if contents.isEmpty then .notYet else .ready contents

/-- Looks at a file and reads it if there is something to read. -/
def Round.find (round : Round) (path : String) : Finding :=
  match round.look.lookUp path with
  | .error .noSuchFile => .notYet
  | .error fault => .failed fault
  | .ok entry => if hasContents entry then round.readAgain path else .notYet

/-- Waits for a file during the rounds that there is time for. -/
def wait (path : String) (seconds : Nat) : List Round → Except Error Bytes
  | [] => .error (.contentTimeout path seconds)
  | round :: rounds =>
      match round.find path with
      | .ready contents => .ok contents
      | .failed fault => .error (.file fault)
      | .notYet => wait path seconds rounds

/-- Waits for a document and reads it. -/
def load (path : String) (seconds : Nat) (rounds : List Round) : Except Error Document := do
  let contents ← wait path seconds rounds
  Document.read contents path

/-- The rounds in a file system that does not change. One is as good as many. -/
def unchanging (files : FileSystem) (seconds : Nat) : List Round :=
  if seconds = 0 then [] else [⟨files, files⟩]

/-! ## Step by step -/

/-- Where a wait is: about to look at the file, about to read it, asleep, or over. -/
inductive Waiting.Stage where
  | looking
  | reading
  | sleeping
  | ended (result : Except Error Bytes)

/-- A wait and the file system as it is now. -/
structure Waiting where
  files : FileSystem
  stage : Waiting.Stage

namespace Waiting

/-- What can happen next: the wait takes its next step, another program changes the files, or the
time is up. -/
inductive Event where
  | step
  | change (files : FileSystem)
  | expire

/-- The next step of a wait. -/
def advance (path : String) (files : FileSystem) : Stage → Stage
  | .looking =>
      match files.lookUp path with
      | .error .noSuchFile => .sleeping
      | .error fault => .ended (.error (.file fault))
      | .ok entry => if hasContents entry then .reading else .sleeping
  | .reading =>
      match files.readFile path with
      | .error fault => .ended (.error (.file fault))
      | .ok contents => if contents.isEmpty then .sleeping else .ended (.ok contents)
  | .sleeping => .looking
  | .ended result => .ended result

/-- The end of the time, which only a wait that is not over notices. -/
def expire (path : String) (seconds : Nat) : Stage → Stage
  | .ended result => .ended result
  | _ => .ended (.error (.contentTimeout path seconds))

/-- What becomes of a wait by an event. -/
def act (path : String) (seconds : Nat) (waiting : Waiting) : Event → Waiting
  | .step => { waiting with stage := advance path waiting.files waiting.stage }
  | .change files => { waiting with files }
  | .expire => { waiting with stage := expire path seconds waiting.stage }

/-- A wait from its beginning. -/
def run (path : String) (seconds : Nat) (files : FileSystem) (events : List Event) : Waiting :=
  events.foldl (act path seconds) ⟨files, .looking⟩

end Waiting

end ClusterEvidence.Content
