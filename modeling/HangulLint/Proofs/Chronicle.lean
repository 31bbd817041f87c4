import HangulLint.Proofs.Interleaving

/-!
# What a sweep tells of its files

A sweep takes notice of each file once. What it tells on that occasion can be read off the files
that it has taken notice of: the progress bar stands at their number, and the journal complains
once of each that could not be read. All other records of a course are no complaints, since they
are of another level.

* `Course.noticedJobs` — the files that a sweep has taken notice of;
* `Record.complains`, `Job.complaintRecord?` — complaints, and what there is to complain of;
* `Course.Chronicle` — the invariant; `Course.Chronicle.start`, `Course.Chronicle.transition`;
* `Course.Chronicle.of_collected` — what it says at the end of a sweep;
* `Settings.course_chronicle` — the courses of the program's sweeps keep it.
-/

namespace HangulLint

/-! ### Complaints -/

/-- Whether a record complains of a file that could not be read. -/
def Record.complains (record : Record FileFault) : Bool :=
  record.level = .warning && record.channel = .sweep
    && ("Error scanning " : Text).isPrefixOf record.message

/-- The complaint of a file that could not be read, if it was not the user who kept it from that. -/
def Job.complaintRecord? (verbose : Bool) (job : Job) : Option (Record FileFault) :=
  match job.outcome with
  | .error fault =>
    if fault = .interrupted then none else some (Course.failureRecord verbose job.key fault)
  | .ok _ => none

theorem Record.complains_failureRecord (verbose : Bool) (key : Text) (fault : FileFault) :
    (Course.failureRecord verbose key fault).complains = true := by
  cases verbose <;>
    simp [Record.complains, Course.failureRecord, Record.plain, List.isPrefixOf_iff_prefix]

/-- Only warnings complain. -/
theorem Record.complains_of_level {record : Record FileFault} (h : record.level ≠ .warning) :
    record.complains = false := by
  simp [Record.complains, h]

namespace Course

variable {verbose : Bool} {course next : Course} {jobs : List Job} {place : Nat} {job : Job}
  {stage : Stage} {left : List Finding} {records : List (Record FileFault)}

section Changes

@[simp] theorem tell_journal : (course.tell records).journal = course.journal ++ records := rfl
@[simp] theorem tell_noticed : (course.tell records).noticed = course.noticed := rfl

@[simp] theorem conclude_journal :
    (course.conclude place job stage).journal = course.journal ++ job.remarks := rfl
@[simp] theorem conclude_noticed :
    (course.conclude place job stage).noticed = course.noticed := rfl

@[simp] theorem continueWith_journal : (course.continueWith place job left).journal =
    course.journal ++ if left.isEmpty then job.remarks else [] := by
  unfold continueWith
  split
  · rfl
  · exact (List.append_nil _).symm
@[simp] theorem continueWith_noticed :
    (course.continueWith place job left).noticed = course.noticed := by
  unfold continueWith
  split <;> rfl

@[simp] theorem notice_journal : (course.notice place job).journal = course.journal := rfl
@[simp] theorem notice_noticed : (course.notice place job).noticed = course.noticed + 1 := rfl

@[simp] theorem stop_journal : course.stop.journal = course.journal ++ [interruptRecord] := rfl
@[simp] theorem stop_noticed : course.stop.noticed = course.noticed := rfl

end Changes

/-! ### The files that a sweep has taken notice of -/

/-- The jobs that the sweep has taken notice of. -/
def noticedJobs (course : Course) : List Job :=
  (course.jobs.filter (·.2 = .collected)).map (·.1)

/-- A job that goes on without being noticed. -/
theorem noticedJobs_advance {stage' : Stage} (entry : course.jobs[place]? = some (job, stage))
    (hbefore : stage ≠ .collected) (hafter : stage' ≠ .collected)
    (hjobs : next.jobs = course.jobs.set place (job, stage')) :
    next.noticedJobs = course.noticedJobs := by
  obtain ⟨before, after, hentries, hset⟩ := exists_around entry (job, stage')
  rw [noticedJobs, noticedJobs, hjobs, hset, hentries]
  simp [hbefore, hafter]

/-- A job that is noticed is one more. -/
theorem noticedJobs_notice (entry : course.jobs[place]? = some (job, stage))
    (hbefore : stage ≠ .collected) (hjobs : next.jobs = course.jobs.set place (job, .collected)) :
    next.noticedJobs.Perm (job :: course.noticedJobs) := by
  obtain ⟨before, after, hentries, hset⟩ := exists_around entry (job, .collected)
  rw [noticedJobs, noticedJobs, hjobs, hset, hentries]
  simp [hbefore]

/-- **What has been told so far.** -/
structure Chronicle (verbose : Bool) (course : Course) : Prop where
  /-- The progress bar stands at the number of files noticed. -/
  noticed : course.noticed = course.noticedJobs.length
  /-- The journal complains of those that could not be read. -/
  complaints : (course.journal.filter Record.complains).Perm
    (course.noticedJobs.filterMap (Job.complaintRecord? verbose))

theorem Chronicle.start (verbose : Bool) (register : Register) (jobs : List Job) :
    Chronicle verbose (Course.start register jobs) := by
  have hnone : (Course.start register jobs).noticedJobs = [] := by
    simp [noticedJobs, Course.start, List.filter_map, Function.comp_def]
  exact ⟨by rw [hnone]; rfl, by rw [hnone]; rfl⟩

/-- A job goes on, and what is told is no complaint. -/
theorem Chronicle.advance (h : Chronicle verbose course) {stage' : Stage}
    (entry : course.jobs[place]? = some (job, stage)) (hbefore : stage ≠ .collected)
    (hafter : stage' ≠ .collected) (hjobs : next.jobs = course.jobs.set place (job, stage'))
    (hnoticed : next.noticed = course.noticed)
    (hjournal : next.journal.filter Record.complains = course.journal.filter Record.complains) :
    Chronicle verbose next where
  noticed := by rw [hnoticed, noticedJobs_advance entry hbefore hafter hjobs, h.noticed]
  complaints := by
    rw [hjournal, noticedJobs_advance entry hbefore hafter hjobs]
    exact h.complaints

/-- The sweep takes notice of a job, and complains of it if there is anything to complain of. -/
theorem Chronicle.notice (h : Chronicle verbose course)
    (entry : course.jobs[place]? = some (job, stage)) (hbefore : stage ≠ .collected)
    (hjobs : next.jobs = course.jobs.set place (job, .collected))
    (hnoticed : next.noticed = course.noticed + 1)
    (hjournal : next.journal.filter Record.complains =
      course.journal.filter Record.complains ++ (job.complaintRecord? verbose).toList) :
    Chronicle verbose next where
  noticed := by
    rw [hnoticed, (noticedJobs_notice entry hbefore hjobs).length_eq, h.noticed, List.length_cons]
  complaints := by
    have hperm := (noticedJobs_notice entry hbefore hjobs).filterMap (Job.complaintRecord? verbose)
    -- the journal has the complaint at its end, and the list of the files has the file in front
    rw [hjournal]
    refine (h.complaints.append_right _).trans (List.perm_append_comm.trans ?_)
    cases hcomplaint : job.complaintRecord? verbose with
    | none => simpa [hcomplaint] using hperm.symm
    | some record => simpa [hcomplaint] using hperm.symm

/-- **Preservation.** Every rule keeps the invariant, if what there is to remark about single files
are no complaints. -/
theorem Chronicle.transition {move : Move} (hremarks : ∀ job ∈ jobs, ∀ record ∈ job.remarks,
      record.complains = false) (h : Chronicle verbose course) (hsound : Sound jobs course)
    (t : Transition verbose course move next) : Chronicle verbose next := by
  have hquiet : ∀ {place : Nat} {job : Job} {stage : Stage},
      course.jobs[place]? = some (job, stage) → job.remarks.filter Record.complains = [] := by
    intro place job stage entry
    have hjob : job ∈ jobs := by
      rw [← hsound.jobs_eq]
      exact List.mem_map.2 ⟨_, List.mem_of_getElem? entry, rfl⟩
    simpa using hremarks job hjob
  have hbegin : ∀ key, (beginRecord key).complains = false := fun key =>
    Record.complains_of_level (by simp [beginRecord, Record.plain])
  have hfinding : ∀ path finding, (findingRecord path finding).complains = false :=
    fun path finding => Record.complains_of_level (by simp [findingRecord, Record.plain])
  have hstop : interruptRecord.complains = false :=
    Record.complains_of_level (by simp [interruptRecord, Record.plain])
  cases t with
  | idle => exact h
  | fail entry running unread =>
    -- the worker tells nothing of its trouble: the sweep does, once it takes notice
    exact h.advance entry (by simp) (by simp) rfl rfl (by simp [hbegin, hquiet entry])
  | @read place job findings entry running content =>
    refine h.advance entry (by simp) ?_ (continueWith_jobs ..) (by simp) ?_
    · cases findings <;> simp [Stage.remaining]
    · cases findings <;> simp [hbegin, hquiet entry]
  | @record place job finding left entry unsealed =>
    refine h.advance entry (by simp) ?_ (continueWith_jobs ..) (by simp) ?_
    · cases left <;> simp [Stage.remaining]
    · cases left <;> simp [hfinding, hquiet entry]
  | refuse entry closed => exact absurd hsound.unsealed (by simp [closed])
  | collect entry running =>
    -- a file that has been recorded has been read, so there is nothing to complain of
    cases hsound.reaches_of_entry entry with
    | written content =>
      exact h.notice entry (by simp) rfl rfl (by simp [Job.complaintRecord?, content])
  | miss entry running other =>
    cases hsound.reaches_of_entry entry with
    | failed unread =>
      refine h.notice entry (by simp) rfl rfl ?_
      simp [Job.complaintRecord?, unread, other, Record.complains_failureRecord]
  | breakOff entry running =>
    -- of an interruption the journal tells, and does not complain
    cases hsound.reaches_of_entry entry with
    | failed unread =>
      exact h.notice entry (by simp) rfl rfl (by simp [Job.complaintRecord?, unread, hstop])
  | interrupt running =>
    have hjobs : course.stop.noticedJobs = course.noticedJobs := rfl
    exact ⟨h.noticed, by simpa [hstop, hjobs] using h.complaints⟩

theorem Chronicle.run (hremarks : ∀ job ∈ jobs, ∀ record ∈ job.remarks, record.complains = false)
    (verbose : Bool) (moves : List Move) :
    Chronicle verbose ((Course.start .empty jobs).run verbose moves) :=
  run_induction (fun _ _ _ hsound ht h => h.transition hremarks hsound ht) moves
    (Sound.start rfl .nil jobs) (.start verbose .empty jobs)

/-- **What has been told at the end of a sweep.** -/
theorem Chronicle.of_collected (h : Chronicle verbose course) (hsound : Sound jobs course)
    (hcollected : ∀ entry ∈ course.jobs, entry.2 = .collected) :
    course.noticed = jobs.length ∧ (course.journal.filter Record.complains).Perm
      (jobs.filterMap (Job.complaintRecord? verbose)) := by
  have hall : course.noticedJobs = jobs := by
    rw [← hsound.jobs_eq, noticedJobs, List.filter_eq_self.2 (by simpa using hcollected)]
  rw [h.noticed, hall]
  exact ⟨rfl, by simpa [hall] using h.complaints⟩

end Course

namespace Settings

theorem complains_of_mem_slowRecords {settings : Settings} {conditions : Conditions} {key : Text}
    {path : Path} {record : Record FileFault}
    (h : record ∈ settings.slowRecords conditions key path) : record.complains = false := by
  dsimp only [slowRecords] at h
  split at h
  · obtain rfl := List.mem_singleton.1 h
    exact Record.complains_of_level (by simp [Record.plain])
  · simp at h

theorem course_chronicle (settings : Settings) (conditions : Conditions)
    (selection : Scope.Selection) (moves : List Move) :
    Course.Chronicle settings.verbose (settings.course conditions selection moves) := by
  refine .run (fun job hjob record hrecord => ?_) settings.verbose moves
  obtain ⟨target, -, rfl⟩ := List.mem_map.1 hjob
  exact complains_of_mem_slowRecords hrecord

/-- The progress bar of a sweep. -/
theorem bar_course {settings : Settings} {conditions : Conditions} {selection : Scope.Selection}
    {moves : List Move} {bar : ProgressBar}
    (h : settings.bar (settings.course conditions selection moves) = some bar) :
    bar.closed = true ∧ bar.total = selection.targets.length ∧
      bar.updates = (settings.course conditions selection moves).noticed := by
  have htotal : (settings.course conditions selection moves).jobs.length =
      selection.targets.length := by
    rw [← List.length_map (·.1), (settings.course_sound conditions selection moves).jobs_eq, jobs,
      List.length_map]
  unfold Settings.bar at h
  split at h
  · simp at h
  · obtain ⟨caption, -, rfl⟩ := Option.map_eq_some_iff.1 h
    exact ⟨rfl, htotal, rfl⟩

end Settings

end HangulLint
