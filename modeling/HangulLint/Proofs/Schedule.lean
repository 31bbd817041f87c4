import HangulLint.Proofs.Transition
import HangulLint.Sweep.Scan

/-!
# Schedules that carry a sweep to its end

A job is done with once the sweep has taken notice of it, or once the sweep is interrupted and its
worker is not writing. It stays so, whatever moves follow (`Course.DoneAt.run`); so a schedule that
inspects every file from beginning to end, in whatever order and with whatever moves in between,
leaves nothing to be done (`Course.Sound.settled_moves`).

* `Course.Sound.settled_inOrder` — in particular the program's own schedule does, for all jobs;
* `Settings.course`, `Settings.Exhausts` — the course of a sweep under a schedule, and whether the
  schedule carries it to its end.
-/

namespace HangulLint

/-- The moves of a job: as many records as there are findings, between beginning and end. -/
theorem Job.exists_moves (job : Job) (place : Nat) : ∃ count,
    job.moves place = .begin place :: (List.replicate count (.record place) ++ [.collect place]) ∧
      ∀ findings, job.outcome = .ok findings → count = findings.length := by
  refine ⟨_, rfl, fun findings hok => ?_⟩
  simp only [hok]

namespace Course

variable {verbose : Bool} {course next : Course} {jobs : List Job}

/-- Nothing is left to be done at a place. -/
def DoneAt (course : Course) (place : Nat) : Prop :=
  ∀ entry, course.jobs[place]? = some entry →
    entry.2 = .collected ∨ (course.interrupted = true ∧ ∀ left, entry.2 ≠ .writing left)

theorem settled_iff : course.Settled ↔ ∀ place, course.DoneAt place := by
  constructor
  · exact fun h place entry hentry => h entry (List.mem_of_getElem? hentry)
  · intro h entry hentry
    obtain ⟨place, hplace⟩ := List.mem_iff_getElem?.1 hentry
    exact h place entry hplace

/-- A change of a job that something was left to do for. -/
theorem DoneAt.frame {place : Nat} (h : course.DoneAt place) {other : Nat} {job : Job}
    {stage stage' : Stage} (entry : course.jobs[other]? = some (job, stage))
    (hjobs : next.jobs = course.jobs.set other (job, stage'))
    (active : stage ≠ .collected ∧ (course.interrupted = false ∨ ∃ left, stage = .writing left))
    (persists : course.interrupted = true → next.interrupted = true) : next.DoneAt place := by
  intro e he
  by_cases hplace : other = place
  · -- the job was not done with
    subst hplace
    rcases h _ entry with hcollected | ⟨hinterrupted, hwriting⟩
    · exact absurd hcollected active.1
    · rcases active.2 with hrunning | ⟨left, hleft⟩
      · exact absurd hinterrupted (by simp [hrunning])
      · exact absurd hleft (hwriting left)
  · rw [hjobs, List.getElem?_set_ne hplace] at he
    exact (h e he).imp_right fun ⟨hinterrupted, hwriting⟩ => ⟨persists hinterrupted, hwriting⟩

/-- What is done with stays so. -/
theorem DoneAt.transition {place : Nat} {move : Move} (h : course.DoneAt place)
    (t : Transition verbose course move next) : next.DoneAt place := by
  cases t with
  | idle => exact h
  | fail entry running unread => exact h.frame entry rfl ⟨by simp, .inl running⟩ id
  | read entry running content =>
    exact h.frame entry (continueWith_jobs ..) ⟨by simp, .inl running⟩ (by simp)
  | record entry unsealed =>
    exact h.frame entry (continueWith_jobs ..) ⟨by simp, .inr ⟨_, rfl⟩⟩ (by simp)
  | refuse entry closed => exact h.frame entry rfl ⟨by simp, .inr ⟨_, rfl⟩⟩ id
  | collect entry running => exact h.frame entry rfl ⟨by simp, .inl running⟩ id
  | miss entry running other => exact h.frame entry rfl ⟨by simp, .inl running⟩ id
  | breakOff entry running => exact h.frame entry rfl ⟨by simp, .inl running⟩ fun _ => rfl
  | interrupt running =>
    intro e he
    rcases h e he with hcollected | ⟨hinterrupted, -⟩
    · exact .inl hcollected
    · exact absurd hinterrupted (by simp [running])

theorem DoneAt.run {place : Nat} (h : course.DoneAt place) (verbose : Bool)
    (schedule : List Move) : (course.run verbose schedule).DoneAt place := by
  induction schedule generalizing course with
  | nil => exact h
  | cons move schedule ih => exact ih (h.transition (step_transition verbose course move))

/-! ### One file from beginning to end -/

theorem Sound.exists_entry (h : Sound jobs course) {place : Nat} {job : Job}
    (hjob : jobs[place]? = some job) : ∃ stage, course.jobs[place]? = some (job, stage) := by
  rw [← h.jobs_eq, List.getElem?_map, Option.map_eq_some_iff] at hjob
  obtain ⟨⟨job, stage⟩, hentry, rfl⟩ := hjob
  exact ⟨stage, hentry⟩

/-- A worker is beyond the beginning of its file, or will not begin any more. -/
def BegunAt (course : Course) (place : Nat) (job : Job) (stage : Stage) : Prop :=
  course.jobs[place]? = some (job, stage) ∧ (stage = .queued → course.interrupted = true)

theorem begin_begun (verbose : Bool) {place : Nat} {job : Job} {stage : Stage}
    (entry : course.jobs[place]? = some (job, stage)) :
    ∃ stage', (course.step verbose (.begin place)).BegunAt place job stage' := by
  have hlt : place < course.jobs.length := (List.getElem?_eq_some_iff.1 entry).1
  by_cases hqueued : stage = .queued
  · -- the worker begins, unless the sweep is interrupted
    subst hqueued
    simp only [step, entry]
    by_cases hinterrupted : course.interrupted = true
    · rw [if_pos hinterrupted]
      exact ⟨.queued, entry, fun _ => hinterrupted⟩
    · rw [if_neg hinterrupted, begin]
      cases job.outcome with
      | error fault => exact ⟨.failed fault, by simp [hlt], by simp⟩
      | ok findings =>
        refine ⟨Stage.remaining findings, by simp [hlt], ?_⟩
        cases findings <;> simp [Stage.remaining]
  · -- the worker has begun before, and the move changes nothing
    have hidle : course.step verbose (.begin place) = course := by
      simp only [step, entry]
      split
      · next heq => exact absurd (Prod.mk.inj (Option.some.inj heq)).2 hqueued
      · rfl
    rw [hidle]
    exact ⟨stage, entry, fun h => absurd h hqueued⟩

/-- So many records are enough for so many findings. -/
theorem records_written (verbose : Bool) {place count : Nat} {job : Job} {stage : Stage}
    (h : Sound jobs course) (hbegun : course.BegunAt place job stage)
    (hleft : ∀ left, stage = .writing left → left.length ≤ count) :
    ∃ stage', (course.run verbose (List.replicate count (.record place))).BegunAt place job stage' ∧
      ∀ left, stage' ≠ .writing left := by
  induction count generalizing course stage with
  | zero =>
    refine ⟨stage, hbegun, fun left hwriting => ?_⟩
    -- a worker that has nothing left is not writing
    subst hwriting
    cases h.reaches_of_entry hbegun.1 with
    | writing content more =>
      exact more (List.eq_nil_of_length_eq_zero (by simpa using hleft left rfl))
  | succ count ih =>
    rw [List.replicate_succ, run_cons]
    have hsound := h.step verbose (.record place)
    have hlt : place < course.jobs.length := (List.getElem?_eq_some_iff.1 hbegun.1).1
    cases stage with
    | writing left =>
      cases left with
      | nil =>
        cases h.reaches_of_entry hbegun.1 with
        | writing content more => exact absurd rfl more
      | cons finding left =>
        -- one finding and one move less
        have hcount : left.length ≤ count := by simpa using hleft _ rfl
        have hnext : (course.step verbose (.record place)).BegunAt place job
            (Stage.remaining left) := by
          simp only [step, hbegun.1, recordNext, Register.record, h.unsealed]
          refine ⟨by simp [hlt], ?_⟩
          cases left <;> simp [Stage.remaining]
        refine ih hsound hnext fun rest hrest => ?_
        cases left with
        | nil => simp [Stage.remaining] at hrest
        | cons next left =>
          obtain rfl : next :: left = rest := by simpa [Stage.remaining] using hrest
          exact hcount
    | _ =>
      -- a worker that is not writing has nothing to record
      have hidle : course.step verbose (.record place) = course := by
        simp [step, hbegun.1]
      rw [hidle]
      exact ih h hbegun (by simp)

theorem collect_done {place : Nat} {job : Job} {stage : Stage}
    (hbegun : course.BegunAt place job stage) (hwriting : ∀ left, stage ≠ .writing left) :
    (course.step verbose (.collect place)).DoneAt place := by
  have hlt : place < course.jobs.length := (List.getElem?_eq_some_iff.1 hbegun.1).1
  intro entry hentry
  by_cases hinterrupted : course.interrupted = true
  · rw [step, if_pos hinterrupted] at hentry ⊢
    rw [hbegun.1, Option.some.injEq] at hentry
    subst hentry
    exact .inr ⟨hinterrupted, hwriting⟩
  · left
    -- a worker that neither waits nor writes is done, one way or another
    simp only [step, if_neg hinterrupted, hbegun.1] at hentry
    cases stage with
    | queued => exact absurd (hbegun.2 rfl) hinterrupted
    | writing left => exact absurd rfl (hwriting left)
    | written => simpa [hlt, eq_comm] using congrArg (Option.map (·.2)) hentry
    | failed fault =>
      unfold noticeFailure at hentry
      dsimp only at hentry
      split at hentry <;> simpa [hlt, eq_comm] using congrArg (Option.map (·.2)) hentry
    | collected =>
      rw [hbegun.1, Option.some.injEq] at hentry
      rw [← hentry]

/-- The moves of a job are enough for it. -/
theorem Sound.doneAt_moves (h : Sound jobs course) (verbose : Bool) {place : Nat} {job : Job}
    (hjob : jobs[place]? = some job) :
    (course.run verbose (job.moves place)).DoneAt place := by
  obtain ⟨stage, entry⟩ := h.exists_entry hjob
  obtain ⟨stage, hbegun⟩ := begin_begun verbose entry
  obtain ⟨count, hmoves, hcount⟩ := job.exists_moves place
  have hsound := h.step verbose (.begin place)
  have hleft : ∀ left, stage = .writing left → left.length ≤ count := by
    intro left hwriting
    subst hwriting
    cases hsound.reaches_of_entry hbegun.1 with
    | writing content more =>
      rw [hcount _ content]
      simp
  obtain ⟨stage, hwritten, hwriting⟩ :=
    records_written verbose hsound hbegun hleft
  rw [hmoves, run_cons, run_append, run_cons, run_nil]
  exact collect_done hwritten hwriting

/-- The moves that take some files, at their places, one after the other. -/
def oneByOne (order : List (Job × Nat)) : List Move :=
  order.flatMap fun (job, place) => job.moves place

theorem oneByOne_cons (job : Job) (place : Nat) (order : List (Job × Nat)) :
    oneByOne ((job, place) :: order) = job.moves place ++ oneByOne order := rfl

theorem oneByOne_append (order order' : List (Job × Nat)) :
    oneByOne (order ++ order') = oneByOne order ++ oneByOne order' :=
  List.flatMap_append

/-- **Files one after the other.** A schedule that holds the moves of every job, in whatever order
and after whatever other moves, leaves nothing to be done. -/
theorem Sound.settled_moves (h : Sound jobs course) (verbose : Bool) (before : List Move)
    (order : List (Job × Nat)) (horder : ∀ entry ∈ order, jobs[entry.2]? = some entry.1)
    (hall : ∀ place < jobs.length, ∃ job, (job, place) ∈ order) :
    (course.run verbose (before ++ oneByOne order)).Settled := by
  have hdone : ∀ entry ∈ order,
      (course.run verbose (before ++ oneByOne order)).DoneAt entry.2 := by
    -- the induction is on the order, over whatever has been done before
    clear hall
    induction order generalizing before with
    | nil => simp
    | cons first order ih =>
      obtain ⟨job, place⟩ := first
      rw [oneByOne_cons, ← List.append_assoc]
      intro entry hentry
      rcases List.mem_cons.1 hentry with rfl | hentry
      · -- the moves of the job come first, and what is done with stays so
        rw [run_append, run_append]
        exact ((h.run verbose before).doneAt_moves verbose
          (horder _ List.mem_cons_self)).run verbose _
      · exact ih _ (fun e he => horder e (List.mem_cons_of_mem _ he)) entry hentry
  -- the order goes over every place that there is
  rw [settled_iff]
  intro place entry hentry
  have hlt : place < jobs.length := by
    rw [← (h.run verbose _).jobs_eq, List.length_map]
    exact (List.getElem?_eq_some_iff.1 hentry).1
  obtain ⟨job, hmem⟩ := hall place hlt
  exact hdone _ hmem entry hentry

/-- The program's own schedule leaves nothing to be done. -/
theorem Sound.settled_inOrder (h : Sound jobs course) (verbose : Bool) (workers : Nat) :
    (course.run verbose (inOrder workers jobs)).Settled := by
  refine h.settled_moves verbose _ jobs.zipIdx ?_ ?_
  · rintro ⟨job, place⟩ hentry
    exact List.mem_zipIdx_iff_getElem?.1 hentry
  · intro place hplace
    exact ⟨jobs[place], List.mem_zipIdx_iff_getElem?.2 (List.getElem?_eq_getElem hplace)⟩

/-- Nobody interrupts a sweep if neither the user does nor any of the inspections. -/
theorem Sound.running_run (h : Sound jobs course) (verbose : Bool) {moves : List Move}
    (hmoves : Move.interrupt ∉ moves) (hjobs : ∀ job ∈ jobs, job.outcome ≠ .error .interrupted)
    (running : course.interrupted = false) : (course.run verbose moves).interrupted = false := by
  induction moves generalizing course with
  | nil => exact running
  | cons move moves ih =>
    rw [List.mem_cons, not_or] at hmoves
    have hstep : (course.step verbose move).interrupted = false := by
      -- two rules interrupt a sweep, and neither applies
      generalize hnext : course.step verbose move = next
      have ht := step_transition verbose course move
      rw [hnext] at ht
      cases ht with
      | breakOff entry _ =>
        cases h.reaches_of_entry entry with
        | @failed fault unread =>
          refine absurd unread (hjobs _ ?_)
          rw [← h.jobs_eq]
          exact List.mem_map.2 ⟨_, List.mem_of_getElem? entry, rfl⟩
      | interrupt _ => exact absurd rfl hmoves.1
      | _ => simpa using running
    exact ih (h.step verbose move) hmoves.2 hstep

end Course

/-- A schedule that does all there is to do, whatever the jobs, and in which the user does not
interrupt the program. -/
structure Schedule.Thorough (schedule : Schedule) : Prop where
  settled : ∀ workers jobs verbose,
    ((Course.start .empty jobs).run verbose (schedule workers jobs)).Settled
  uninterrupted : ∀ workers jobs, Move.interrupt ∉ schedule workers jobs

theorem thorough_inOrder : Schedule.Thorough inOrder where
  settled := fun workers jobs verbose =>
    (Course.Sound.start rfl .nil jobs).settled_inOrder verbose workers
  uninterrupted := by
    intro workers jobs hmem
    simp [inOrder, Job.moves] at hmem

/-! ### The course of a sweep -/

namespace Settings

/-- The jobs of a sweep. -/
def jobs (settings : Settings) (conditions : Conditions) (selection : Scope.Selection) : List Job :=
  selection.targets.map (settings.job conditions)

/-- The course of a sweep under some moves. -/
def course (settings : Settings) (conditions : Conditions) (selection : Scope.Selection)
    (moves : List Move) : Course :=
  (Course.start .empty (settings.jobs conditions selection)).run settings.verbose moves

/-- Whether a schedule leaves nothing to be done in a sweep. -/
def Exhausts (settings : Settings) (conditions : Conditions) (schedule : List Job → List Move) :
    Prop :=
  ∀ selection, settings.scope.select conditions.site conditions.size = .ok selection →
    (settings.course conditions selection
      (schedule (settings.jobs conditions selection))).Settled

variable (settings : Settings) (conditions : Conditions) (selection : Scope.Selection)

theorem course_sound (moves : List Move) :
    Course.Sound (settings.jobs conditions selection)
      (settings.course conditions selection moves) :=
  (Course.Sound.start rfl .nil _).run settings.verbose moves

/-- Whatever moves come first, the program's own schedule does what they leave to be done. -/
theorem exhausts_append (schedule : List Job → List Move) (workers : Nat) :
    settings.Exhausts conditions fun jobs => schedule jobs ++ inOrder workers jobs := by
  intro selection _
  rw [course, Course.run_append]
  exact (settings.course_sound conditions selection _).settled_inOrder settings.verbose workers

theorem exhausts_inOrder (workers : Nat) : settings.Exhausts conditions (inOrder workers) :=
  settings.exhausts_append conditions (fun _ => []) workers

theorem exhausts_of_thorough {schedule : Schedule} (h : schedule.Thorough) (workers : Nat) :
    settings.Exhausts conditions (schedule workers) :=
  fun selection _ => h.settled workers (settings.jobs conditions selection) settings.verbose

/-- What a sweep that comes to its end leaves: the register of its course, sealed. -/
theorem finish_of_running {course : Course} (hrunning : course.interrupted = false) :
    (settings.finish course).outcome = .ok () ∧
      (settings.finish course).state = ⟨course.register.close, course.failures⟩ := by
  rw [Settings.finish, if_neg (by simp [hrunning])]
  exact ⟨rfl, rfl⟩

end Settings

namespace SweepState

variable {state : SweepState} {settings : Settings} {conditions : Conditions}
  {schedule : List Job → List Move}

/-- A sweep with an open register, once the files are selected. -/
theorem inspectAll_eq (hopen : state.register.sealed = false) (selection : Scope.Selection) :
    state.inspectAll settings conditions schedule selection =
      let sweep := settings.finish (settings.course conditions selection
        (schedule (settings.jobs conditions selection)))
      { sweep with journal :=
          startRecord :: selection.journal ++ [countRecord selection.targets.length]
            ++ sweep.journal } := by
  have hclear : state.register.clear = .ok .empty := by
    simp [Register.clear, hopen, Register.empty]
  rw [inspectAll, hclear]
  rfl

theorem scanBy_of_select {selection : Scope.Selection}
    (hroot : conditions.site.isDir settings.scope.root = .ok true)
    (hselect : settings.scope.select conditions.site conditions.size = .ok selection) :
    state.scanBy settings conditions schedule =
      state.inspectAll settings conditions schedule selection := by
  simp only [scanBy, hroot, hselect]

theorem scanBy_eq (hopen : state.register.sealed = false) {selection : Scope.Selection}
    (hroot : conditions.site.isDir settings.scope.root = .ok true)
    (hselect : settings.scope.select conditions.site conditions.size = .ok selection) :
    (state.scanBy settings conditions schedule).outcome =
        (settings.finish (settings.course conditions selection
          (schedule (settings.jobs conditions selection)))).outcome ∧
      (state.scanBy settings conditions schedule).state =
        (settings.finish (settings.course conditions selection
          (schedule (settings.jobs conditions selection)))).state := by
  simp only [scanBy_of_select hroot hselect, inspectAll_eq hopen, and_self]

/-- A sweep comes to its end if neither the user nor any of the inspections interrupts it. -/
theorem outcome_of_uninterrupted (hopen : state.register.sealed = false)
    {selection : Scope.Selection}
    (hroot : conditions.site.isDir settings.scope.root = .ok true)
    (hselect : settings.scope.select conditions.site conditions.size = .ok selection)
    (hmoves : Move.interrupt ∉ schedule (settings.jobs conditions selection))
    (hjobs : ∀ job ∈ settings.jobs conditions selection, job.outcome ≠ .error .interrupted) :
    (state.scanBy settings conditions schedule).outcome = .ok () := by
  have hrunning : (settings.course conditions selection
      (schedule (settings.jobs conditions selection))).interrupted = false :=
    (Course.Sound.start rfl .nil _).running_run settings.verbose hmoves hjobs rfl
  exact (scanBy_eq hopen hroot hselect).1.trans (settings.finish_of_running hrunning).1

/-- **The sweeps that come to their end.** The root is a directory, the files could be selected,
and the course was not interrupted; its register is then sealed as it is. -/
theorem scanBy_ok (hopen : state.register.sealed = false)
    (hok : (state.scanBy settings conditions schedule).outcome = .ok ()) :
    ∃ selection, settings.scope.select conditions.site conditions.size = .ok selection ∧
      conditions.site.isDir settings.scope.root = .ok true ∧
      (settings.course conditions selection
        (schedule (settings.jobs conditions selection))).interrupted = false ∧
      (state.scanBy settings conditions schedule).state =
        ⟨(settings.course conditions selection
            (schedule (settings.jobs conditions selection))).register.close,
          (settings.course conditions selection
            (schedule (settings.jobs conditions selection))).failures⟩ := by
  unfold scanBy at hok
  cases hroot : conditions.site.isDir settings.scope.root with
  | error error => simp [hroot] at hok
  | ok isDirectory =>
    cases isDirectory with
    | false => simp [hroot] at hok
    | true =>
      cases hselect : settings.scope.select conditions.site conditions.size with
      | error error => simp [hroot, hselect] at hok
      | ok selection =>
        simp only [hroot, hselect, inspectAll_eq hopen] at hok
        have hrunning : (settings.course conditions selection
            (schedule (settings.jobs conditions selection))).interrupted = false := by
          -- an interrupted course ends the sweep with a fault
          by_contra hinterrupted
          rw [Settings.finish, if_pos (by simpa using hinterrupted)] at hok
          exact absurd hok (by simp)
        refine ⟨selection, rfl, rfl, hrunning, ?_⟩
        rw [(scanBy_eq hopen hroot hselect).2, (Settings.finish_of_running settings hrunning).2]

end SweepState

end HangulLint
