import HangulLint.Proofs.Ledger

/-!
# The steps of a sweep

What one move does to a course, said once: `Course.Transition` has one rule for every way in which
a move takes effect, with what has to be the case for it, and `Course.step_transition` says that
every step goes by one of the rules. Everything about runs is proved on the rules.

A sweep starts with an open register, and no move seals it. Under an open register the stages of
a job are those of `Job.Reaches`: a worker gives up on a file for one reason only, that the file
cannot be read, and what is left to record is always the rest of the findings in the file.

* `Course.Sound` — the invariant of a sweep: the jobs stay, the register stays open, each job is
  at a stage that it reaches, and an inspection that was interrupted has interrupted the sweep;
* `Course.Sound.start`, `Course.Sound.step`, `Course.Sound.run` — it holds throughout;
* `Course.run_induction` — what the steps of a sound course keep, its runs keep.
-/

namespace HangulLint

/-- The stage of a worker with these findings left to record. -/
def Stage.remaining (left : List Finding) : Stage :=
  if left.isEmpty then .written else .writing left

/-- What a job still has to record. -/
def Stage.left (job : Job) : Stage → List Finding
  | .queued => match job.outcome with
    | .ok findings => findings
    | .error _ => []
  | .writing left => left
  | _ => []

@[simp] theorem Stage.left_remaining (job : Job) (left : List Finding) :
    (Stage.remaining left).left job = left := by
  cases left <;> rfl

namespace Course

variable {verbose : Bool} {course : Course} {place : Nat} {job : Job} {stage : Stage}
  {left : List Finding} {records : List (Record FileFault)}

/-! ### What the changes of a course touch -/

section Changes

@[simp] theorem tell_register : (course.tell records).register = course.register := rfl
@[simp] theorem tell_failures : (course.tell records).failures = course.failures := rfl
@[simp] theorem tell_jobs : (course.tell records).jobs = course.jobs := rfl
@[simp] theorem tell_interrupted : (course.tell records).interrupted = course.interrupted := rfl

@[simp] theorem conclude_register :
    (course.conclude place job stage).register = course.register := rfl
@[simp] theorem conclude_failures :
    (course.conclude place job stage).failures = course.failures := rfl
@[simp] theorem conclude_jobs :
    (course.conclude place job stage).jobs = course.jobs.set place (job, stage) := rfl
@[simp] theorem conclude_interrupted :
    (course.conclude place job stage).interrupted = course.interrupted := rfl

@[simp] theorem continueWith_register :
    (course.continueWith place job left).register = course.register := by
  unfold continueWith
  split <;> rfl
@[simp] theorem continueWith_failures :
    (course.continueWith place job left).failures = course.failures := by
  unfold continueWith
  split <;> rfl
@[simp] theorem continueWith_jobs :
    (course.continueWith place job left).jobs =
      course.jobs.set place (job, Stage.remaining left) := by
  unfold continueWith Stage.remaining
  split <;> rfl
@[simp] theorem continueWith_interrupted :
    (course.continueWith place job left).interrupted = course.interrupted := by
  unfold continueWith
  split <;> rfl

@[simp] theorem notice_register : (course.notice place job).register = course.register := rfl
@[simp] theorem notice_failures : (course.notice place job).failures = course.failures := rfl
@[simp] theorem notice_jobs :
    (course.notice place job).jobs = course.jobs.set place (job, .collected) := rfl
@[simp] theorem notice_interrupted :
    (course.notice place job).interrupted = course.interrupted := rfl

@[simp] theorem stop_register : course.stop.register = course.register := rfl
@[simp] theorem stop_failures : course.stop.failures = course.failures := rfl
@[simp] theorem stop_jobs : course.stop.jobs = course.jobs := rfl
@[simp] theorem stop_interrupted : course.stop.interrupted = true := rfl

end Changes

/-! ### The rules -/

/-- **The rules of a sweep.** Each rule is one way in which a move takes effect; a move that is not
possible changes nothing. -/
inductive Transition (verbose : Bool) (course : Course) : Move → Course → Prop where
  /-- The move is not possible. -/
  | idle (move : Move) : Transition verbose course move course
  /-- A worker cannot read its file. -/
  | fail {place : Nat} {job : Job} {fault : FileFault}
      (entry : course.jobs[place]? = some (job, .queued)) (running : course.interrupted = false)
      (unread : job.outcome = .error fault) :
      Transition verbose course (.begin place)
        ((course.tell [beginRecord job.key]).conclude place job (.failed fault))
  /-- A worker has read its file. -/
  | read {place : Nat} {job : Job} {findings : List Finding}
      (entry : course.jobs[place]? = some (job, .queued)) (running : course.interrupted = false)
      (content : job.outcome = .ok findings) :
      Transition verbose course (.begin place)
        ((course.tell [beginRecord job.key]).continueWith place job findings)
  /-- A worker records a finding. -/
  | record {place : Nat} {job : Job} {finding : Finding} {left : List Finding}
      (entry : course.jobs[place]? = some (job, .writing (finding :: left)))
      (unsealed : course.register.sealed = false) :
      Transition verbose course (.record place)
        ((({ course with register := { course.register with
            findings := course.register.findings.record job.key finding } }.tell
          [findingRecord job.path finding]).continueWith place job left))
  /-- The register refuses a finding. -/
  | refuse {place : Nat} {job : Job} {finding : Finding} {left : List Finding}
      (entry : course.jobs[place]? = some (job, .writing (finding :: left)))
      (closed : course.register.sealed = true) :
      Transition verbose course (.record place) (course.conclude place job (.failed .sealed))
  /-- The sweep takes notice of a file that is done. -/
  | collect {place : Nat} {job : Job} (entry : course.jobs[place]? = some (job, .written))
      (running : course.interrupted = false) :
      Transition verbose course (.collect place) (course.notice place job)
  /-- The sweep takes notice of a file that could not be read. -/
  | miss {place : Nat} {job : Job} {fault : FileFault}
      (entry : course.jobs[place]? = some (job, .failed fault))
      (running : course.interrupted = false) (other : fault ≠ .interrupted) :
      Transition verbose course (.collect place)
        ({ course.notice place job with
          failures := course.failures.put job.key fault.message }.tell
            [failureRecord verbose job.key fault])
  /-- The sweep takes notice of an inspection that the user has interrupted. -/
  | breakOff {place : Nat} {job : Job}
      (entry : course.jobs[place]? = some (job, .failed .interrupted))
      (running : course.interrupted = false) :
      Transition verbose course (.collect place) (course.notice place job).stop
  /-- The user interrupts the sweep. -/
  | interrupt (running : course.interrupted = false) :
      Transition verbose course .interrupt course.stop

/-- Every step goes by one of the rules. -/
theorem step_transition (verbose : Bool) (course : Course) (move : Move) :
    Transition verbose course move (course.step verbose move) := by
  cases move with
  | begin place =>
    -- a worker begins with a file that waits, unless the sweep is interrupted
    simp only [step]
    split
    · next job entry =>
      cases running : course.interrupted with
      | true => exact .idle _
      | false =>
        rw [if_neg (by simp), begin]
        cases outcome : job.outcome with
        | error fault => exact .fail entry running outcome
        | ok findings => exact .read entry running outcome
    · exact .idle _
  | record place =>
    -- a worker goes on after an interruption; only the register can stop it
    simp only [step]
    split
    · next job finding left entry =>
      rw [recordNext, Register.record]
      by_cases closed : course.register.sealed = true
      · rw [if_pos closed]
        exact .refuse entry closed
      · rw [if_neg closed]
        exact .record entry (by simpa using closed)
    · exact .idle _
  | collect place =>
    -- what a file is noticed for depends on how its worker ended
    simp only [step]
    cases running : course.interrupted with
    | true => exact .idle _
    | false =>
      rw [if_neg (by simp)]
      split
      · next job entry => exact .collect entry running
      · next job fault entry =>
        rw [noticeFailure]
        by_cases hfault : fault = .interrupted
        · subst hfault
          rw [if_pos rfl]
          exact .breakOff entry running
        · rw [if_neg hfault]
          exact .miss entry running hfault
      · exact .idle _
  | interrupt =>
    simp only [step]
    cases running : course.interrupted with
    | true => exact .idle _
    | false =>
      rw [if_neg (by simp)]
      exact .interrupt running

end Course

/-! ### The invariant -/

/-- The stages that a job comes to under an open register. -/
inductive Job.Reaches (job : Job) : Stage → Prop where
  | queued : job.Reaches .queued
  /-- What is left to record is the rest of what has been found. -/
  | writing {done left : List Finding} (content : job.outcome = .ok (done ++ left))
      (more : left ≠ []) : job.Reaches (.writing left)
  | written {findings : List Finding} (content : job.outcome = .ok findings) :
      job.Reaches .written
  | failed {fault : FileFault} (unread : job.outcome = .error fault) :
      job.Reaches (.failed fault)
  | collected : job.Reaches .collected

/-- Where a worker is that has recorded some findings of its file. -/
theorem Job.reaches_remaining {job : Job} (done : List Finding) {left : List Finding}
    (content : job.outcome = .ok (done ++ left)) : job.Reaches (Stage.remaining left) := by
  cases left with
  | nil => exact .written content
  | cons finding left => exact .writing content (by simp)

namespace Course

/-- **The invariant of a sweep.** -/
structure Sound (jobs : List Job) (course : Course) : Prop where
  /-- Jobs keep their places. -/
  jobs_eq : course.jobs.map (·.1) = jobs
  /-- The register is open. -/
  unsealed : course.register.sealed = false
  /-- Every job is at a stage that it reaches. -/
  reaches : ∀ entry ∈ course.jobs, entry.1.Reaches entry.2
  /-- No key is registered twice or without findings. -/
  orderly : course.register.findings.Orderly
  /-- An inspection that was interrupted has interrupted the sweep. -/
  broken : ∀ entry ∈ course.jobs, entry.2 = .collected → entry.1.outcome = .error .interrupted →
    course.interrupted = true

variable {verbose : Bool} {course next : Course} {jobs : List Job} {move : Move}

theorem Sound.start {register : Register} (h : register.sealed = false)
    (horderly : register.findings.Orderly) (jobs : List Job) :
    Sound jobs (Course.start register jobs) where
  jobs_eq := by
    rw [Course.start, List.map_map]
    exact List.map_id jobs
  unsealed := h
  reaches := by
    intro entry hentry
    obtain ⟨job, -, rfl⟩ := List.mem_map.1 hentry
    exact .queued
  orderly := horderly
  broken := by
    intro entry hentry
    obtain ⟨job, -, rfl⟩ := List.mem_map.1 hentry
    simp

theorem map_fst_set {entries : List (Job × Stage)} {place : Nat} {job : Job} {stage : Stage}
    (entry : entries[place]? = some (job, stage)) (stage' : Stage) :
    (entries.set place (job, stage')).map (·.1) = entries.map (·.1) := by
  obtain ⟨hlt, heq⟩ := List.getElem?_eq_some_iff.1 entry
  have hlt' : place < (entries.map (·.1)).length := by simpa using hlt
  have hjob : (entries.map (·.1))[place] = job := by simp [heq]
  calc (entries.set place (job, stage')).map (·.1)
      = (entries.map (·.1)).set place (entries.map (·.1))[place] := by rw [List.map_set, hjob]
    _ = entries.map (·.1) := List.set_getElem_self hlt'

/-- One job comes to another stage. -/
theorem Sound.advance (h : Sound jobs course) {place : Nat} {job : Job} {stage stage' : Stage}
    (entry : course.jobs[place]? = some (job, stage))
    (hjobs : next.jobs = course.jobs.set place (job, stage'))
    (unsealed : next.register.sealed = false) (orderly : next.register.findings.Orderly)
    (reaches : job.Reaches stage')
    (broken : stage' = .collected → job.outcome = .error .interrupted → next.interrupted = true)
    (persists : course.interrupted = true → next.interrupted = true) : Sound jobs next where
  jobs_eq := by rw [hjobs, map_fst_set entry, h.jobs_eq]
  unsealed := unsealed
  reaches := by
    intro other hother
    rw [hjobs] at hother
    rcases List.mem_or_eq_of_mem_set hother with hother | rfl
    · exact h.reaches other hother
    · exact reaches
  orderly := orderly
  broken := by
    intro other hother hcollected houtcome
    rw [hjobs] at hother
    rcases List.mem_or_eq_of_mem_set hother with hother | rfl
    · exact persists (h.broken other hother hcollected houtcome)
    · exact broken hcollected houtcome

theorem Sound.reaches_of_entry (h : Sound jobs course) {place : Nat} {job : Job} {stage : Stage}
    (entry : course.jobs[place]? = some (job, stage)) : job.Reaches stage :=
  h.reaches (job, stage) (List.mem_of_getElem? entry)

/-- **Preservation.** Every rule keeps the invariant. -/
theorem Sound.transition (h : Sound jobs course) (t : Transition verbose course move next) :
    Sound jobs next := by
  cases t with
  | idle => exact h
  | fail entry running unread =>
    -- the worker gives up because the file cannot be read
    exact h.advance entry rfl h.unsealed h.orderly (.failed unread) (by simp) id
  | @read place job findings entry running content =>
    -- all findings are left, and none is done
    exact h.advance entry (continueWith_jobs ..) (by simpa using h.unsealed)
      (by simpa using h.orderly) (Job.reaches_remaining [] content)
      (by cases findings <;> simp [Stage.remaining]) (by simp)
  | @record place job finding left entry unsealed =>
    -- the finding moves from what is left to what is done
    cases h.reaches_of_entry entry with
    | @writing done _ content more =>
      exact h.advance entry (continueWith_jobs ..) (by simpa using unsealed)
        (by simpa using h.orderly.record job.key finding)
        (Job.reaches_remaining (done ++ [finding]) (by simpa using content))
        (by cases left <;> simp [Stage.remaining]) (by simp)
  | refuse entry closed =>
    -- the register is open
    exact absurd h.unsealed (by simp [closed])
  | collect entry running =>
    -- a file that has been recorded has been read
    cases h.reaches_of_entry entry with
    | written content =>
      exact h.advance entry rfl h.unsealed h.orderly .collected
        (fun _ hbroken => absurd (content.symm.trans hbroken) (by simp)) id
  | miss entry running other =>
    -- the fault is that of the inspection, which is no interruption
    cases h.reaches_of_entry entry with
    | failed unread =>
      exact h.advance entry rfl h.unsealed h.orderly .collected
        (fun _ hbroken => absurd (Except.error.inj (unread.symm.trans hbroken)) other) id
  | breakOff entry running =>
    -- the inspection was interrupted, and now the sweep is
    exact h.advance entry rfl h.unsealed h.orderly .collected (fun _ _ => rfl) fun _ => rfl
  | interrupt running =>
    exact ⟨h.jobs_eq, h.unsealed, h.reaches, h.orderly, fun _ _ _ _ => rfl⟩

theorem Sound.step (h : Sound jobs course) (verbose : Bool) (move : Move) :
    Sound jobs (course.step verbose move) :=
  h.transition (step_transition verbose course move)

/-! ### Runs -/

@[simp] theorem run_nil (verbose : Bool) (course : Course) : course.run verbose [] = course := rfl

theorem run_cons (verbose : Bool) (course : Course) (move : Move) (schedule : List Move) :
    course.run verbose (move :: schedule) = (course.step verbose move).run verbose schedule := rfl

theorem run_append (verbose : Bool) (course : Course) (first second : List Move) :
    course.run verbose (first ++ second) = (course.run verbose first).run verbose second :=
  List.foldl_append

/-- **Induction along a run.** What every rule keeps in sound courses holds after every schedule,
if it holds before. -/
theorem run_induction {P : Course → Prop}
    (hstep : ∀ course next move, Sound jobs course → Transition verbose course move next →
      P course → P next)
    (schedule : List Move) {course : Course} (hsound : Sound jobs course) (h : P course) :
    P (course.run verbose schedule) := by
  induction schedule generalizing course with
  | nil => exact h
  | cons move schedule ih =>
    have ht := step_transition verbose course move
    rw [run_cons]
    exact ih (hsound.transition ht) (hstep _ _ _ hsound ht h)

theorem Sound.run (h : Sound jobs course) (verbose : Bool) (schedule : List Move) :
    Sound jobs (course.run verbose schedule) :=
  run_induction (fun _ _ _ hsound ht _ => hsound.transition ht) schedule h h

end Course

end HangulLint
