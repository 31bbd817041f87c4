import HangulLint.Sweep.Scope

/-!
# The course of a sweep

The selected files are inspected by several workers at once, so that what is recorded and told
about different files can come in any order. A **course** is the state in between; it goes on by
**moves**: a worker begins a file, records the next finding of one, or the sweep takes notice that
a file is done. Each worker records the findings of its file in the order of the lines.

A move that is not possible where it comes changes nothing, so that every list of moves is a
schedule.

* `Course.step`, `Course.run` — one move, and a schedule;
* `Course.Settled` — nothing is left to be done;
* `inOrder` — the schedule that takes the files one after the other.

The user can interrupt a sweep at any point. Files that no worker has begun are then left alone,
those begun are finished, and of none the sweep takes notice any more.
-/

namespace HangulLint

/-- The messages of failed files by their keys, the keys in the order of their first failure. -/
abbrev Failures := List (Text × Text)

/-- The failures with a message under a key, in the place of one that was there. -/
def Failures.put (key message : Text) : Failures → Failures
  | [] => [(key, message)]
  | (k, m) :: rest => if k = key then (k, message) :: rest else (k, m) :: put key message rest

/-- A file to inspect and what comes of it. -/
structure Job where
  key : Text
  path : Path
  /-- The findings in the file or why there are none. -/
  outcome : Except FileFault (List Finding)
  /-- What the journal tells once the file is done. -/
  remarks : List (Record FileFault)

/-- How far a job has come. -/
inductive Stage where
  | queued
  /-- A worker has read the file and has these findings still to record. -/
  | writing (left : List Finding)
  /-- The worker is done, and all findings are recorded. -/
  | written
  /-- The worker has given up. -/
  | failed (fault : FileFault)
  /-- The sweep has taken notice that the worker is done. -/
  | collected
deriving DecidableEq

/-- The state of a sweep that is under way. -/
structure Course where
  register : Register
  failures : Failures
  jobs : List (Job × Stage)
  journal : List (Record FileFault)
  /-- How many jobs the sweep has taken notice of. -/
  noticed : Nat
  interrupted : Bool

/-- What can happen next. Jobs are named by their places. -/
inductive Move where
  | begin (job : Nat)
  | record (job : Nat)
  | collect (job : Nat)
  | interrupt
deriving DecidableEq

namespace Course

/-- The course before the first move. -/
def start (register : Register) (jobs : List Job) : Course :=
  ⟨register, [], jobs.map (·, .queued), [], 0, false⟩

/-- The course with more told in the journal. -/
def tell (course : Course) (records : List (Record FileFault)) : Course :=
  { course with journal := course.journal ++ records }

/-- The course in which a job has come to a stage. -/
def advance (course : Course) (place : Nat) (job : Job) (stage : Stage) : Course :=
  { course with jobs := course.jobs.set place (job, stage) }

/-- The course in which the worker of a job is done. -/
def conclude (course : Course) (place : Nat) (job : Job) (stage : Stage) : Course :=
  (course.advance place job stage).tell job.remarks

/-- The course in which a job has these findings left to record. -/
def continueWith (course : Course) (place : Nat) (job : Job) (left : List Finding) : Course :=
  if left.isEmpty then course.conclude place job .written
  else course.advance place job (.writing left)

/-- What the journal tells when a worker begins a file. -/
def beginRecord (key : Text) : Record FileFault := .plain .debug .sweep ("Processing " ++ key)

/-- What the journal tells when the user interrupts the sweep. -/
def interruptRecord : Record FileFault :=
  .plain .info .sweep "Scan interrupted by user; shutting down workers"

/-- What the journal tells of a failed file: the message, or the course of the fault where
details are shown. -/
def failureRecord (verbose : Bool) (key : Text) (fault : FileFault) : Record FileFault :=
  if verbose then ⟨.warning, .sweep, "Error scanning " ++ key, some fault⟩
  else .plain .warning .sweep ("Error scanning " ++ key ++ ": " ++ fault.message)

/-- A worker begins a job: it reads the whole file. -/
def begin (course : Course) (place : Nat) (job : Job) : Course :=
  let course := course.tell [beginRecord job.key]
  match job.outcome with
  | .error fault => course.conclude place job (.failed fault)
  | .ok findings => course.continueWith place job findings

/-- A worker records the next finding of a job. -/
def recordNext (course : Course) (place : Nat) (job : Job) (finding : Finding)
    (left : List Finding) : Course :=
  match course.register.record job.key finding with
  | .error .sealed => course.conclude place job (.failed .sealed)
  | .ok register =>
    ({ course with register := register }.tell [findingRecord job.path finding]).continueWith
      place job left

/-- The sweep takes notice of a job. -/
def notice (course : Course) (place : Nat) (job : Job) : Course :=
  { course.advance place job .collected with noticed := course.noticed + 1 }

/-- The sweep stops taking notice. -/
def stop (course : Course) : Course :=
  { course.tell [interruptRecord] with interrupted := true }

/-- The sweep takes notice of a failed job. A file whose inspection was interrupted interrupts the
sweep. -/
def noticeFailure (verbose : Bool) (course : Course) (place : Nat) (job : Job)
    (fault : FileFault) : Course :=
  let noticed := course.notice place job
  if fault = .interrupted then noticed.stop
  else
    { noticed with failures := noticed.failures.put job.key fault.message }.tell
      [failureRecord verbose job.key fault]

/-- What a move makes of a course. -/
def step (verbose : Bool) (course : Course) : Move → Course
  | .begin place =>
    match course.jobs[place]? with
    | some (job, .queued) => if course.interrupted then course else course.begin place job
    | _ => course
  | .record place =>
    match course.jobs[place]? with
    | some (job, .writing (finding :: left)) => course.recordNext place job finding left
    | _ => course
  | .collect place =>
    if course.interrupted then course
    else match course.jobs[place]? with
      | some (job, .written) => course.notice place job
      | some (job, .failed fault) => course.noticeFailure verbose place job fault
      | _ => course
  | .interrupt => if course.interrupted then course else course.stop

/-- What a schedule makes of a course. -/
def run (verbose : Bool) (course : Course) (schedule : List Move) : Course :=
  schedule.foldl (step verbose) course

/-- Whether nothing is left to be done: every job has been noticed, or the sweep has been
interrupted and no worker is under way. -/
def Settled (course : Course) : Prop :=
  ∀ entry ∈ course.jobs, entry.2 = .collected ∨
    (course.interrupted = true ∧ ∀ left, entry.2 ≠ .writing left)

end Course

/-- The moves that inspect one file from its beginning to its end. -/
def Job.moves (job : Job) (place : Nat) : List Move :=
  let findings := match job.outcome with
    | .ok findings => findings.length
    | .error _ => 0
  .begin place :: (List.replicate findings (.record place) ++ [.collect place])

/-- How so many workers get along with some jobs. -/
abbrev Schedule := (workers : Nat) → List Job → List Move

/-- The schedule by which the workers begin with the first files, one each, and the files are
otherwise taken one after the other. -/
def inOrder : Schedule := fun workers jobs =>
  (List.range (min workers jobs.length)).map .begin
    ++ jobs.zipIdx.flatMap fun (job, place) => job.moves place

end HangulLint
