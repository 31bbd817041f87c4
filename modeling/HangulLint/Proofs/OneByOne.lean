import HangulLint.Proofs.Failures
import HangulLint.Proofs.Interleaving

/-!
# One file after the other

Where nothing comes in between, what a file leaves is plain: its findings stand behind those that
were under its key, or its message stands there, and no other key is touched.

* `Course.Leaves` — what a file leaves behind;
* `Course.leaves_moves` — the moves of a file, one after the other, leave this;
* `Course.Sound.run_order` — files that are not among those taken stay as they are;
* `Course.Sound.run_two` — what two files leave, the one taken after the other.
-/

namespace HangulLint

namespace Course

variable {verbose : Bool} {course : Course} {jobs : List Job}

/-- What the inspection of one file leaves of a course, if it is not interrupted. -/
structure Leaves (course : Course) (place : Nat) (job : Job) (next : Course) : Prop where
  jobs_eq : next.jobs = course.jobs.set place (job, .collected)
  running : next.interrupted = false
  /-- The findings of the file stand last under its key. -/
  under : ∀ key, next.register.findings.under key =
    course.register.findings.under key ++ (job.share key).getD []
  /-- The message of the file, if it has one, is the last under its key. -/
  lookup : ∀ key, next.failures.lookup key =
    (if job.key = key then job.complaint? else none).or (course.failures.lookup key)

/-- As many records as there are findings. -/
theorem run_records (verbose : Bool) (hunsealed : course.register.sealed = false) {place : Nat}
    {job : Job} {left : List Finding}
    (entry : course.jobs[place]? = some (job, Stage.remaining left)) :
    let next := course.run verbose (List.replicate left.length (.record place))
    next.jobs = course.jobs.set place (job, .written) ∧
      next.interrupted = course.interrupted ∧ next.failures = course.failures ∧
      ∀ key, next.register.findings.under key = if job.key = key then
        course.register.findings.under key ++ left else course.register.findings.under key := by
  induction left generalizing course with
  | nil =>
    -- the worker is done already
    obtain ⟨hlt, heq⟩ := List.getElem?_eq_some_iff.1 entry
    refine ⟨?_, rfl, rfl, by simp⟩
    have heq : course.jobs[place] = (job, .written) := heq
    rw [← heq, List.set_getElem_self]
    rfl
  | cons finding left ih =>
    have hlt : place < course.jobs.length := (List.getElem?_eq_some_iff.1 entry).1
    have hstep : course.step verbose (.record place) =
        (({ course with register := { course.register with
            findings := course.register.findings.record job.key finding } }.tell
          [findingRecord job.path finding]).continueWith place job left) := by
      simp [step, entry, Stage.remaining, recordNext, Register.record, hunsealed]
    have hunsealed' : (course.step verbose (.record place)).register.sealed = false := by
      rw [hstep]
      simpa using hunsealed
    have entry' : (course.step verbose (.record place)).jobs[place]? =
        some (job, Stage.remaining left) := by
      rw [hstep]
      simp [hlt]
    -- the rest is recorded from the course with the first finding in its register
    obtain ⟨hjobs, hinterrupted, hfailures, hunder⟩ := ih hunsealed' entry'
    rw [List.length_cons, List.replicate_succ]
    refine ⟨?_, ?_, ?_, fun key => ?_⟩
    · rw [run_cons, hjobs, hstep]
      simp
    · rw [run_cons, hinterrupted, hstep]
      simp
    · rw [run_cons, hfailures, hstep]
      simp
    · rw [run_cons, hunder key, hstep]
      simp only [continueWith_register, tell_register, Findings.under_record]
      split <;> simp

theorem step_collect_written {place : Nat} {job : Job}
    (entry : course.jobs[place]? = some (job, .written)) (running : course.interrupted = false) :
    course.step verbose (.collect place) = course.notice place job := by
  simp [step, entry, running]

theorem step_collect_failed {place : Nat} {job : Job} {fault : FileFault}
    (entry : course.jobs[place]? = some (job, .failed fault))
    (running : course.interrupted = false) (other : fault ≠ .interrupted) :
    course.step verbose (.collect place) =
      { course.notice place job with
        failures := course.failures.put job.key fault.message }.tell
          [failureRecord verbose job.key fault] := by
  simp only [step, entry, running, Bool.false_eq_true, if_false, noticeFailure, if_neg other]
  rfl

theorem leaves_moves_of_error {place : Nat} {job : Job} {fault : FileFault}
    (entry : course.jobs[place]? = some (job, .queued)) (running : course.interrupted = false)
    (unread : job.outcome = .error fault) (other : fault ≠ .interrupted) :
    course.Leaves place job (course.run verbose (job.moves place)) := by
  have hlt : place < course.jobs.length := (List.getElem?_eq_some_iff.1 entry).1
  have hbegin : course.step verbose (.begin place) =
      (course.tell [beginRecord job.key]).conclude place job (.failed fault) := by
    simp [step, entry, running, begin, unread]
  -- there are no findings to record
  have hmoves : job.moves place = [.begin place, .collect place] := by
    simp [Job.moves, unread]
  have entry' :
      ((course.tell [beginRecord job.key]).conclude place job (.failed fault)).jobs[place]? =
        some (job, .failed fault) := by simp [hlt]
  rw [hmoves, run_cons, run_cons, run_nil, hbegin, step_collect_failed entry' running other]
  refine ⟨by simp, by simpa using running, fun key => ?_, fun key => ?_⟩
  · simp [Job.share, unread, Except.toOption]
  · rw [tell_failures, Failures.lookup_put]
    by_cases hkey : job.key = key <;> simp [hkey, Job.complaint?, unread]

theorem leaves_moves_of_ok (hunsealed : course.register.sealed = false) {place : Nat} {job : Job}
    {findings : List Finding} (entry : course.jobs[place]? = some (job, .queued))
    (running : course.interrupted = false) (content : job.outcome = .ok findings) :
    course.Leaves place job (course.run verbose (job.moves place)) := by
  have hlt : place < course.jobs.length := (List.getElem?_eq_some_iff.1 entry).1
  have hbegin : course.step verbose (.begin place) =
      (course.tell [beginRecord job.key]).continueWith place job findings := by
    simp [step, entry, running, begin, content]
  have hmoves : job.moves place = .begin place ::
      (List.replicate findings.length (.record place) ++ [.collect place]) := by
    simp [Job.moves, content]
  have hunsealed' : (course.step verbose (.begin place)).register.sealed = false := by
    rw [hbegin]
    simpa using hunsealed
  have entry' : (course.step verbose (.begin place)).jobs[place]? =
      some (job, Stage.remaining findings) := by
    rw [hbegin]
    simp [hlt]
  -- the beginning touches the stage of the job alone, so the records are told from the start
  obtain ⟨hjobs, hinterrupted, hfailures, hunder⟩ := run_records verbose hunsealed' entry'
  rw [hbegin] at hjobs hinterrupted hfailures hunder
  simp only [continueWith_jobs, tell_jobs, List.set_set, continueWith_interrupted,
    tell_interrupted, running, continueWith_failures, tell_failures, continueWith_register,
    tell_register] at hjobs hinterrupted hfailures hunder
  -- what is left is the last move, from a course of which only this is known
  rw [hmoves, run_cons, run_append, run_cons, run_nil, hbegin]
  generalize ((course.tell [beginRecord job.key]).continueWith place job findings).run verbose
    (List.replicate findings.length (.record place)) = next at hjobs hinterrupted hfailures hunder ⊢
  have hwritten : next.jobs[place]? = some (job, .written) := by simp [hjobs, hlt]
  rw [step_collect_written hwritten hinterrupted]
  refine ⟨by simp [hjobs], hinterrupted, fun key => ?_, fun key => ?_⟩
  · rw [notice_register, hunder key]
    by_cases hkey : job.key = key <;> simp [hkey, Job.share, content, Except.toOption]
  · rw [notice_failures, hfailures]
    simp [Job.complaint?, content]

/-- **One file from beginning to end.** -/
theorem leaves_moves (verbose : Bool) (hunsealed : course.register.sealed = false) {place : Nat}
    {job : Job} (entry : course.jobs[place]? = some (job, .queued))
    (running : course.interrupted = false) (hfault : job.outcome ≠ .error .interrupted) :
    course.Leaves place job (course.run verbose (job.moves place)) := by
  cases houtcome : job.outcome with
  | error fault =>
    exact leaves_moves_of_error entry running houtcome fun h =>
      hfault (houtcome.trans (congrArg _ h))
  | ok findings => exact leaves_moves_of_ok hunsealed entry running houtcome

/-- **Files one after the other.** When none of them interrupts the sweep, it goes on, and the
files that are not among them are where they were. -/
theorem Sound.run_order (h : Sound jobs course) (verbose : Bool) (order : List (Job × Nat))
    (hnodup : (order.map (·.2)).Nodup)
    (hqueued : ∀ entry ∈ order, course.jobs[entry.2]? = some (entry.1, .queued))
    (hfault : ∀ entry ∈ order, entry.1.outcome ≠ .error .interrupted)
    (running : course.interrupted = false) :
    let next := course.run verbose (oneByOne order)
    next.interrupted = false ∧
      ∀ place, place ∉ order.map (·.2) → next.jobs[place]? = course.jobs[place]? := by
  induction order generalizing course with
  | nil => exact ⟨running, fun _ _ => rfl⟩
  | cons first order ih =>
    obtain ⟨job, place⟩ := first
    rw [List.map_cons, List.nodup_cons] at hnodup
    have hleaves := leaves_moves verbose h.unsealed (hqueued _ List.mem_cons_self) running
      (hfault _ List.mem_cons_self)
    -- the first file leaves the others where they are, so they still wait
    have hframe : ∀ other, other ≠ place →
        (course.run verbose (job.moves place)).jobs[other]? = course.jobs[other]? := by
      intro other hother
      rw [hleaves.jobs_eq, List.getElem?_set_ne (Ne.symm hother)]
    have hqueued' : ∀ entry ∈ order,
        (course.run verbose (job.moves place)).jobs[entry.2]? = some (entry.1, .queued) := by
      intro entry hentry
      rw [hframe entry.2 fun heq => hnodup.1 (List.mem_map.2 ⟨entry, hentry, heq⟩)]
      exact hqueued entry (List.mem_cons_of_mem _ hentry)
    obtain ⟨hrunning, hrest⟩ := ih (h.run verbose _) hnodup.2 hqueued'
      (fun entry hentry => hfault entry (List.mem_cons_of_mem _ hentry)) hleaves.running
    rw [oneByOne_cons, run_append]
    refine ⟨hrunning, fun other hother => ?_⟩
    rw [List.map_cons, List.mem_cons, not_or] at hother
    rw [hrest other hother.2, hframe other hother.1]

/-- **Two files, the one after the other.** -/
theorem Sound.run_two (h : Sound jobs course) (verbose : Bool) {i j : Nat} {a b : Job}
    (entryA : course.jobs[i]? = some (a, .queued)) (entryB : course.jobs[j]? = some (b, .queued))
    (hne : i ≠ j) (running : course.interrupted = false)
    (hfaultA : a.outcome ≠ .error .interrupted) (hfaultB : b.outcome ≠ .error .interrupted) :
    let next := course.run verbose (a.moves i ++ b.moves j)
    next.interrupted = false ∧
      (∀ key, next.register.findings.under key = course.register.findings.under key ++
        (a.share key).getD [] ++ (b.share key).getD []) ∧
      ∀ key, next.failures.lookup key = (if b.key = key then b.complaint? else none).or
        ((if a.key = key then a.complaint? else none).or (course.failures.lookup key)) := by
  -- what the second file leaves is told from where the first one has ended
  have hleavesA := leaves_moves verbose h.unsealed entryA running hfaultA
  have entryB' : (course.run verbose (a.moves i)).jobs[j]? = some (b, .queued) := by
    rw [hleavesA.jobs_eq, List.getElem?_set_ne hne, entryB]
  have hleavesB := leaves_moves verbose (h.run verbose _).unsealed entryB' hleavesA.running hfaultB
  rw [run_append]
  refine ⟨hleavesB.running, fun key => ?_, fun key => ?_⟩
  · rw [hleavesB.under, hleavesA.under]
  · rw [hleavesB.lookup, hleavesA.lookup]

end Course

end HangulLint
