import HangulLint.Proofs.Schedule

/-!
# What becomes of files that cannot be read

Whenever the sweep takes notice of a file that could not be read, the message is put under the key
of the file, in the place of one that was there. So every message is that of a file with the key,
and a key without a message is one whose files could all be read.

* `Course.Misses` — the invariant; `Course.Misses.start`, `Course.Misses.transition`;
* `Course.lookup_failures` — the messages at the end of a sweep, up to a choice among the files
  with one key.
-/

namespace HangulLint

/-- The message of a job that could not be done. -/
def Job.complaint? (job : Job) : Option Text :=
  match job.outcome with
  | .error fault => some fault.message
  | .ok _ => none

namespace Course

variable {verbose : Bool} {course next : Course} {jobs : List Job}

/-- **The messages so far.** -/
structure Misses (jobs : List Job) (course : Course) : Prop where
  /-- Every message is that of a file with the key. -/
  source : ∀ key message, course.failures.lookup key = some message →
    ∃ job ∈ jobs, job.key = key ∧ job.complaint? = some message
  /-- A file that could not be read leaves a message when the sweep takes notice of it. -/
  noticed : ∀ entry ∈ course.jobs, entry.2 = .collected → entry.1.complaint? ≠ none →
    course.interrupted = true ∨ course.failures.lookup entry.1.key ≠ none

theorem Misses.start (register : Register) (jobs : List Job) :
    Misses jobs (Course.start register jobs) where
  source := by simp [Course.start]
  noticed := by
    intro entry hentry
    obtain ⟨job, -, rfl⟩ := List.mem_map.1 hentry
    simp

/-- A job comes to a stage without a message to leave. -/
theorem Misses.advance (h : Misses jobs course) {place : Nat} {job : Job} {stage : Stage}
    (hjobs : next.jobs = course.jobs.set place (job, stage))
    (hfailures : next.failures = course.failures)
    (hquiet : stage = .collected → job.complaint? ≠ none → next.interrupted = true)
    (persists : course.interrupted = true → next.interrupted = true) : Misses jobs next where
  source := by
    rw [hfailures]
    exact h.source
  noticed := by
    intro other hother hcollected hcomplaint
    rw [hjobs] at hother
    rw [hfailures]
    rcases List.mem_or_eq_of_mem_set hother with hother | rfl
    · -- another job is where it was
      exact (h.noticed other hother hcollected hcomplaint).imp_left persists
    · exact .inl (hquiet hcollected hcomplaint)

/-- A message is put under the key of a file that could not be read. -/
theorem Misses.put (h : Misses jobs course) {place : Nat} {job : Job} {fault : FileFault}
    (hjob : job ∈ jobs) (unread : job.outcome = .error fault)
    (running : course.interrupted = false)
    (hjobs : next.jobs = course.jobs.set place (job, .collected))
    (hfailures : next.failures = course.failures.put job.key fault.message) :
    Misses jobs next where
  source := by
    intro key message hlookup
    -- under its own key stands the new message, and under others what stood there
    rw [hfailures, Failures.lookup_put] at hlookup
    split at hlookup
    · next hkey => exact ⟨job, hjob, hkey, by rw [Job.complaint?, unread, ← hlookup]⟩
    · exact h.source key message hlookup
  noticed := by
    intro other hother hcollected hcomplaint
    right
    rw [hfailures, Failures.lookup_put]
    split
    · simp
    · next hkey =>
      rw [hjobs] at hother
      rcases List.mem_or_eq_of_mem_set hother with hother | rfl
      · -- the sweep goes on, so the message is not missing for an interruption
        exact (h.noticed other hother hcollected hcomplaint).resolve_left (by simp [running])
      · exact absurd rfl hkey

/-- **Preservation.** Every rule keeps the invariant. -/
theorem Misses.transition {move : Move} (h : Misses jobs course) (hsound : Sound jobs course)
    (t : Transition verbose course move next) : Misses jobs next := by
  cases t with
  | idle => exact h
  | fail entry running unread =>
    -- the message waits until the sweep takes notice
    exact h.advance rfl rfl (by simp) id
  | @read place job findings entry running content =>
    exact h.advance (continueWith_jobs ..) (by simp)
      (by cases findings <;> simp [Stage.remaining]) (by simp)
  | @record place job finding left entry unsealed =>
    exact h.advance (continueWith_jobs ..) (by simp)
      (by cases left <;> simp [Stage.remaining]) (by simp)
  | refuse entry closed => exact absurd hsound.unsealed (by simp [closed])
  | collect entry running =>
    -- the file has been read
    cases hsound.reaches_of_entry entry with
    | written content =>
      exact h.advance rfl rfl (fun _ hcomplaint => absurd hcomplaint
        (by simp [Job.complaint?, content])) id
  | @miss place job fault entry running other =>
    cases hsound.reaches_of_entry entry with
    | failed unread =>
      have hjob : job ∈ jobs := by
        rw [← hsound.jobs_eq]
        exact List.mem_map.2 ⟨_, List.mem_of_getElem? entry, rfl⟩
      exact h.put hjob unread running rfl rfl
  | breakOff entry running => exact h.advance rfl rfl (fun _ _ => rfl) fun _ => rfl
  | interrupt running => exact ⟨h.source, fun _ _ _ _ => .inl rfl⟩

theorem Misses.run (jobs : List Job) (verbose : Bool) (moves : List Move) :
    Misses jobs ((Course.start .empty jobs).run verbose moves) :=
  run_induction (fun _ _ _ hsound ht h => h.transition hsound ht) moves
    (Sound.start rfl .nil jobs) (.start .empty jobs)

/-- **The messages at the end of a sweep.** Under a key stands the message of a file with that key
that could not be read, and nothing only if there is no such file. -/
theorem lookup_failures (h : Misses jobs course) (hsound : Sound jobs course)
    (hcollected : ∀ entry ∈ course.jobs, entry.2 = .collected)
    (hrunning : course.interrupted = false) (key : Text) :
    (∀ message, course.failures.lookup key = some message →
      ∃ job ∈ jobs, job.key = key ∧ job.complaint? = some message) ∧
    (course.failures.lookup key = none → ∀ job ∈ jobs, job.key = key → job.complaint? = none) := by
  refine ⟨h.source key, fun hnone job hjob hkey => ?_⟩
  rw [← hsound.jobs_eq] at hjob
  obtain ⟨entry, hentry, rfl⟩ := List.mem_map.1 hjob
  by_contra hcomplaint
  -- the sweep has taken notice of the file, so there is a message
  rcases h.noticed entry hentry (hcollected entry hentry) hcomplaint with hinterrupted | hlookup
  · exact absurd hinterrupted (by simp [hrunning])
  · exact hlookup (hkey ▸ hnone)

end Course

end HangulLint
