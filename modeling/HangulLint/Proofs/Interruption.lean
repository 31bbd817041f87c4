import HangulLint.Proofs.Chronicle

/-!
# What an interrupted sweep leaves

The user can interrupt a sweep between any two moves, and so can an inspection. Workers that have
begun a file go on to its end, and the others do not begin any more. Since a worker reads its file
before it records anything, every file is then recorded as a whole or not at all.

The invariant (`Course.Keeps`) looks at the files that have been begun: what is recorded is a
shuffle of what each of them has recorded so far. When a worker begins a file that can be read,
nothing of it is recorded; each finding comes behind all that are there; and when nothing is left
to be done, the files begun have all their findings recorded.

The register stays open, so the next sweep clears it, and takes the failures anew: it is the sweep
that a new state would see.

* `Course.begunJobs` — the files that were begun; `Course.Keeps` — the invariant;
* `Course.keeps_settled` — what it says when nothing is left to be done;
* `SweepState.scanBy_forgets` — nothing is left of earlier sweeps;
* `Settings.BreaksOff`, `SweepState.scanBy_breaksOff` — what an interrupted sweep leaves.
-/

namespace HangulLint

theorem Job.share_of_error {job : Job} {fault : FileFault} (h : job.outcome = .error fault)
    (key : Text) : job.share key = none := by
  rw [Job.share, h]
  split <;> rfl

namespace Course

variable {verbose : Bool} {course next : Course} {jobs : List Job} {key : Text}

/-! ### The files that were begun -/

/-- The jobs that a worker has begun with. -/
def begunJobs (course : Course) : List Job := (course.jobs.filter (·.2 ≠ .queued)).map (·.1)

/-- What a job has recorded under a key, if a worker has begun with it and it has a share there. -/
def recorded (key : Text) (entry : Job × Stage) : Option (List Finding) :=
  if entry.2 = .queued then none
  else (entry.1.share key).map fun found =>
    found.take (found.length - (entry.2.left entry.1).length)

theorem recorded_queued (key : Text) (job : Job) : recorded key (job, .queued) = none := rfl

theorem recorded_of_error {job : Job} {fault : FileFault} (h : job.outcome = .error fault)
    (key : Text) (stage : Stage) : recorded key (job, stage) = none := by
  unfold recorded
  split
  · rfl
  · rw [Job.share_of_error h, Option.map_none]

/-- A worker that has recorded some findings of its file. -/
theorem recorded_remaining {job : Job} {done left : List Finding}
    (content : job.outcome = .ok (done ++ left)) (key : Text) :
    recorded key (job, Stage.remaining left) = if job.key = key then some done else none := by
  have hbegun : Stage.remaining left ≠ .queued := by
    cases left <;> simp [Stage.remaining]
  rw [recorded, if_neg hbegun, Job.share, content, Stage.left_remaining]
  split <;> simp [Except.toOption]

/-- A worker that has nothing left to record has recorded its share. -/
theorem recorded_of_left {job : Job} {stage : Stage} (hbegun : stage ≠ .queued)
    (hleft : stage.left job = []) (key : Text) : recorded key (job, stage) = job.share key := by
  rw [recorded, if_neg hbegun, hleft]
  simp

/-- The invariant: what is recorded under a key is a shuffle of what the files begun have recorded
there. -/
def Keeps (course : Course) : Prop :=
  ∀ key, Shuffle (course.jobs.filterMap (recorded key)) (course.register.findings.under key)

theorem Keeps.start (jobs : List Job) : Keeps (Course.start .empty jobs) := by
  intro key
  have hnone : (Course.start .empty jobs).jobs.filterMap (recorded key) = [] := by
    simp [Course.start, recorded_queued]
  rw [hnone]
  exact .done (by simp)

/-- A change that records nothing. -/
theorem Keeps.advance (h : Keeps course) {place : Nat} {job : Job} {stage stage' : Stage}
    (entry : course.jobs[place]? = some (job, stage))
    (hjobs : next.jobs = course.jobs.set place (job, stage'))
    (hregister : next.register = course.register)
    (hrecorded : ∀ key, recorded key (job, stage') = recorded key (job, stage)) : Keeps next := by
  intro key
  rw [hjobs, filterMap_set (recorded key) entry (hrecorded key), hregister]
  exact h key

/-- **A file is begun.** Nothing of it is recorded so far. -/
theorem Keeps.read (h : Keeps course) {place : Nat} {job : Job} {findings : List Finding}
    (entry : course.jobs[place]? = some (job, .queued)) (content : job.outcome = .ok findings)
    (hjobs : next.jobs = course.jobs.set place (job, Stage.remaining findings))
    (hregister : next.register = course.register) : Keeps next := by
  intro key
  have hcontent : job.outcome = .ok ([] ++ findings) := content
  have hafter : recorded key (job, Stage.remaining findings) =
      if job.key = key then some [] else none := recorded_remaining hcontent key
  by_cases hkey : job.key = key
  · obtain ⟨before, after, hentries, hset⟩ := exists_around entry (job, Stage.remaining findings)
    have hbefore := h key
    rw [hentries, List.filterMap_append, List.filterMap_cons, recorded_queued] at hbefore
    rw [if_pos hkey] at hafter
    rw [hjobs, hset, List.filterMap_append, List.filterMap_cons, hafter, hregister]
    -- one list more, and an empty one
    exact hbefore.cons_nil.of_perm List.perm_middle.symm
  · rw [hjobs, filterMap_set (recorded key) entry (by rw [hafter, if_neg hkey, recorded_queued]),
      hregister]
    exact h key

/-- **A finding is recorded.** It comes behind all that its file has recorded, and behind all that
is recorded under the key. -/
theorem Keeps.record (h : Keeps course) {place : Nat} {job : Job} {finding : Finding}
    {done left : List Finding}
    (entry : course.jobs[place]? = some (job, .writing (finding :: left)))
    (content : job.outcome = .ok (done ++ finding :: left))
    (hjobs : next.jobs = course.jobs.set place (job, Stage.remaining left))
    (hregister : next.register.findings = course.register.findings.record job.key finding) :
    Keeps next := by
  intro key
  have hbefore : recorded key (job, .writing (finding :: left)) =
      if job.key = key then some done else none := recorded_remaining content key
  have hafter : recorded key (job, Stage.remaining left) =
      if job.key = key then some (done ++ [finding]) else none :=
    recorded_remaining (by simpa using content) key
  rw [hregister, Findings.under_record]
  by_cases hkey : job.key = key
  · obtain ⟨before, after, hentries, hset⟩ := exists_around entry (job, Stage.remaining left)
    have hshuffle := h key
    rw [if_pos hkey] at hbefore hafter ⊢
    rw [hentries, List.filterMap_append, List.filterMap_cons, hbefore] at hshuffle
    rw [hjobs, hset, List.filterMap_append, List.filterMap_cons, hafter]
    -- the file's own list is moved to the front, where it grows by the finding
    exact ((hshuffle.of_perm List.perm_middle).snoc finding).of_perm List.perm_middle.symm
  · rw [if_neg hkey] at hbefore hafter ⊢
    rw [hjobs, filterMap_set (recorded key) entry (hafter.trans hbefore.symm)]
    exact h key

/-- **Preservation.** Every rule keeps the invariant. -/
theorem Keeps.transition {move : Move} (h : Keeps course) (hsound : Sound jobs course)
    (t : Transition verbose course move next) : Keeps next := by
  cases t with
  | idle => exact h
  | fail entry running unread =>
    -- a file that cannot be read records nothing, before and after
    refine h.advance entry rfl rfl fun key => ?_
    rw [recorded_of_error unread, recorded_of_error unread]
  | read entry running content =>
    exact h.read entry content (continueWith_jobs ..) (by simp)
  | record entry unsealed =>
    cases hsound.reaches_of_entry entry with
    | writing content more => exact h.record entry content (continueWith_jobs ..) (by simp)
  | refuse entry closed => exact absurd hsound.unsealed (by simp [closed])
  | collect entry running =>
    -- the worker is done, and being noticed changes nothing of that
    refine h.advance entry rfl rfl fun key => ?_
    rw [recorded_of_left (by simp) rfl, recorded_of_left (by simp) rfl]
  | miss entry running other =>
    cases hsound.reaches_of_entry entry with
    | failed unread =>
      refine h.advance entry rfl rfl fun key => ?_
      rw [recorded_of_error unread, recorded_of_error unread]
  | breakOff entry running =>
    cases hsound.reaches_of_entry entry with
    | failed unread =>
      refine h.advance entry rfl rfl fun key => ?_
      rw [recorded_of_error unread, recorded_of_error unread]
  | interrupt running => exact h

theorem Keeps.run (jobs : List Job) (verbose : Bool) (moves : List Move) :
    Keeps ((Course.start .empty jobs).run verbose moves) :=
  run_induction (fun _ _ _ hsound ht h => h.transition hsound ht) moves
    (Sound.start rfl .nil jobs) (.start jobs)

/-- When nothing is left to be done, every file that was begun is recorded as a whole. -/
theorem keeps_settled (h : Keeps course) (hsettled : course.Settled) (key : Text) :
    Shuffle (course.begunJobs.filterMap (Job.share key)) (course.register.findings.under key) := by
  have hrecorded : ∀ entry ∈ course.jobs, recorded key entry =
      if entry.2 ≠ .queued then Job.share key entry.1 else none := by
    rintro ⟨job, stage⟩ hentry
    by_cases hqueued : stage = .queued
    · subst hqueued
      rfl
    · rw [if_pos hqueued]
      refine recorded_of_left hqueued ?_ key
      -- no worker is under way
      rcases hsettled _ hentry with hcollected | ⟨-, hwriting⟩
      · obtain rfl : stage = .collected := hcollected
        rfl
      · cases stage with
        | queued => exact absurd rfl hqueued
        | writing left => exact absurd rfl (hwriting left)
        | _ => rfl
  have hbegun : course.begunJobs.filterMap (Job.share key) =
      course.jobs.filterMap (recorded key) := by
    rw [begunJobs, List.filterMap_map, List.filterMap_filter, List.filterMap_congr hrecorded]
    simp
  rw [hbegun]
  exact h key

theorem Sound.begunJobs_sublist (h : Sound jobs course) : course.begunJobs.Sublist jobs := by
  rw [← h.jobs_eq]
  exact List.filter_sublist.map _

/-- The sweep takes notice only of files that were begun. -/
theorem Chronicle.noticed_le (h : Chronicle verbose course) :
    course.noticed ≤ course.begunJobs.length := by
  -- what has been noticed is queued no more
  rw [h.noticed, noticedJobs, begunJobs, List.length_map, List.length_map]
  refine (List.monotone_filter_right _ fun entry hcollected => ?_).length_le
  simp [of_decide_eq_true hcollected]

/-! ### Interruptions -/

/-- An interruption is not undone. -/
theorem interrupted_transition {move : Move} (h : course.interrupted = true)
    (t : Transition verbose course move next) : next.interrupted = true := by
  -- most rules need a sweep that goes on, and the others leave the interruption as it is
  cases t <;> simp_all

/-- The user interrupts a sweep by the move for it, unless it has been interrupted before. -/
theorem interrupted_of_mem (hsound : Sound jobs course) {moves : List Move}
    (h : course.interrupted = true ∨ Move.interrupt ∈ moves) :
    (course.run verbose moves).interrupted = true := by
  induction moves generalizing course with
  | nil => simpa using h
  | cons move moves ih =>
    refine ih (hsound.step verbose move) ?_
    rcases h with h | h
    · exact .inl (interrupted_transition h (step_transition verbose course move))
    · rcases List.mem_cons.1 h with rfl | h
      · left
        by_cases hinterrupted : course.interrupted = true <;> simp [step, hinterrupted]
      · exact .inr h

/-- An inspection that is interrupted interrupts the sweep, when nothing is left to be done. -/
theorem interrupted_of_job (hsound : Sound jobs course) (hsettled : course.Settled) {job : Job}
    (hjob : job ∈ jobs) (h : job.outcome = .error .interrupted) : course.interrupted = true := by
  rw [← hsound.jobs_eq] at hjob
  obtain ⟨entry, hentry, rfl⟩ := List.mem_map.1 hjob
  rcases hsettled entry hentry with hcollected | ⟨hinterrupted, -⟩
  · exact hsound.broken entry hentry hcollected h
  · exact hinterrupted

end Course

namespace Settings

/-- **An interrupted sweep.** What it leaves where a worker had begun with some of the targets. -/
structure BreaksOff (settings : Settings) (conditions : Conditions)
    (targets begun : List Target) (sweep : Sweep) : Prop where
  outcome : sweep.outcome = .error .interrupted
  unsealed : sweep.state.register.sealed = false
  /-- The files begun are some of those selected. -/
  sublist : begun.Sublist targets
  /-- Of each file begun that could be read all findings are there, and of others none. -/
  whole : ∀ key, Shuffle (begun.filterMap (settings.share conditions key))
    (sweep.state.register.findings.under key)
  /-- Every finding comes from a file that could be read. -/
  source : ∀ key, ∀ finding ∈ sweep.state.register.findings.under key,
    ∃ path content, (key, path) ∈ begun ∧
      readSource conditions.site conditions.library (conditions.guesser path) path = .ok content ∧
      finding ∈ findingsIn settings.rule content
  /-- The progress bar is closed, and has gone on at most once for each file. -/
  bar : ∀ bar, sweep.bar = some bar →
    bar.closed = true ∧ bar.total = targets.length ∧ bar.updates ≤ begun.length

variable {settings : Settings} {conditions : Conditions} {selection : Scope.Selection}
  {moves : List Move}

/-- A course that was interrupted, when nothing is left to be done. -/
theorem breaksOff_finish
    (hsettled : (settings.course conditions selection moves).Settled)
    (hinterrupted : (settings.course conditions selection moves).interrupted = true) :
    ∃ begun, begun.map (settings.job conditions) =
        (settings.course conditions selection moves).begunJobs ∧
      settings.BreaksOff conditions selection.targets begun
        (settings.finish (settings.course conditions selection moves)) := by
  have hsound := settings.course_sound conditions selection moves
  -- the jobs begun are those of some of the targets
  obtain ⟨begun, hsublist, hbegun⟩ := List.sublist_map_iff.1 hsound.begunJobs_sublist
  have hwhole : ∀ key, Shuffle (begun.filterMap (settings.share conditions key))
      ((settings.course conditions selection moves).register.findings.under key) := by
    intro key
    rw [← settings.filterMap_job_share, ← hbegun]
    exact Course.keeps_settled (.run _ settings.verbose moves) hsettled key
  refine ⟨begun, hbegun.symm, ?_⟩
  rw [finish, if_pos hinterrupted]
  refine ⟨rfl, hsound.unsealed, hsublist, hwhole, fun key finding hfinding => ?_,
    fun bar hbar => ?_⟩
  · exact (exists_target hwhole).1 hfinding
  · have hupdates := (settings.course_chronicle conditions selection moves).noticed_le
    rw [hbegun, List.length_map] at hupdates
    obtain ⟨hclosed, htotal, hcount⟩ := bar_course hbar
    exact ⟨hclosed, htotal, hcount.trans_le hupdates⟩

end Settings

namespace SweepState

variable {state : SweepState} {settings : Settings} {conditions : Conditions}
  {schedule : List Job → List Move} {selection : Scope.Selection}

/-- **Nothing is left of earlier sweeps.** As long as the register is open, a sweep ends as one
from a new state would; if it comes to its end, it is that sweep. -/
theorem scanBy_forgets (hopen : state.register.sealed = false) :
    (state.scanBy settings conditions schedule).outcome =
        (fresh.scanBy settings conditions schedule).outcome ∧
      ((state.scanBy settings conditions schedule).outcome = .ok () →
        state.scanBy settings conditions schedule = fresh.scanBy settings conditions schedule) := by
  unfold scanBy
  split
  · exact ⟨rfl, by simp⟩
  · exact ⟨rfl, by simp⟩
  · split
    · exact ⟨rfl, by simp⟩
    · -- the register is cleared, and the failures are those of the new course
      have hfresh : fresh.register.sealed = false := rfl
      rw [inspectAll_eq hopen, inspectAll_eq hfresh]
      exact ⟨rfl, fun _ => rfl⟩

/-- **An interrupted sweep leaves whole files, and can be repeated.** Wherever the user interrupts a
sweep, or an inspection, the sweep ends with the interruption, and of each file selected all
findings are there or none: all if a worker had begun with the file and it could be read. The
register stays open. Under any conditions, and whatever findings and failures earlier sweeps have
left under an open register, the next sweep ends as one from a new state; if it comes to its end,
it leaves what that one leaves. -/
theorem scanBy_breaksOff (hopen : state.register.sealed = false)
    (hroot : conditions.site.isDir settings.scope.root = .ok true)
    (hselect : settings.scope.select conditions.site conditions.size = .ok selection)
    (hexhausts : settings.Exhausts conditions schedule)
    (hinterrupt : Move.interrupt ∈ schedule (settings.jobs conditions selection) ∨
      ∃ job ∈ settings.jobs conditions selection, job.outcome = .error .interrupted) :
    (∃ begun, begun.map (settings.job conditions) = (settings.course conditions selection
        (schedule (settings.jobs conditions selection))).begunJobs ∧
      settings.BreaksOff conditions selection.targets begun
        (state.scanBy settings conditions schedule)) ∧
    ∀ (left : SweepState) (conditions' : Conditions) (schedule' : List Job → List Move),
      left.register.sealed = false →
      let again := left.scanBy settings conditions' schedule'
      let anew := fresh.scanBy settings conditions' schedule'
      again.outcome = anew.outcome ∧ (again.outcome = .ok () → again = anew) := by
  refine ⟨?_, fun left conditions' schedule' hleft => scanBy_forgets hleft⟩
  have hsettled := hexhausts selection hselect
  have hinterrupted : (settings.course conditions selection
      (schedule (settings.jobs conditions selection))).interrupted = true := by
    rcases hinterrupt with hmoves | ⟨job, hjob, houtcome⟩
    · exact Course.interrupted_of_mem (Course.Sound.start rfl .nil _) (.inr hmoves)
    · exact Course.interrupted_of_job (settings.course_sound conditions selection _) hsettled hjob
        houtcome
  obtain ⟨begun, hbegun, h⟩ := Settings.breaksOff_finish hsettled hinterrupted
  refine ⟨begun, hbegun, ?_⟩
  -- before the first move, the sweep adds to the journal alone
  rw [scanBy_of_select hroot hselect, inspectAll_eq hopen]
  exact { h with }

/-- A schedule by which the user interrupts the program when the second file has been begun. -/
def brokenSchedule (jobs : List Job) : List Move := [.begin 1, .interrupt] ++ inOrder 2 jobs

/-- Of two files the second is begun when the user interrupts the sweep: its finding is there, that
of the first is not, and the next sweep finds both. -/
theorem scanBy_breaksOff_twins :
    let sweep := fresh.scanBy twinSettings twins brokenSchedule
    sweep.outcome = .error .interrupted ∧
      sweep.state.register.findings.under "d/a/b.cs" = [⟨1, "y \"가\""⟩] ∧
      (∃ begun, twinSettings.BreaksOff twins twinTargets begun sweep) ∧
      sweep.state.scan twinSettings twins = fresh.scan twinSettings twins := by
  have hopen : fresh.register.sealed = false := rfl
  have hroot : twins.site.isDir twinSettings.scope.root = .ok true := by cbv
  have hexhausts : twinSettings.Exhausts twins brokenSchedule :=
    twinSettings.exhausts_append twins (fun _ => [.begin 1, .interrupt]) 2
  have hinterrupt : Move.interrupt ∈
      brokenSchedule (twinSettings.jobs twins ⟨twinTargets, []⟩) := by
    simp [brokenSchedule]
  obtain ⟨⟨begun, -, h⟩, hagain⟩ := scanBy_breaksOff hopen hroot select_twins hexhausts
    (.inl hinterrupt)
  have hleft : (fresh.scanBy twinSettings twins brokenSchedule).state.register.sealed = false :=
    h.unsealed
  refine ⟨h.outcome, by cbv, ⟨begun, h⟩, (hagain _ twins (inOrder 2) hleft).2 ?_⟩
  cbv

end SweepState

end HangulLint
