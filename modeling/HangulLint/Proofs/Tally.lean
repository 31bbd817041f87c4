import HangulLint.Proofs.Arrangement
import HangulLint.Proofs.Chronicle
import HangulLint.Proofs.Grouping
import HangulLint.Proofs.Refusal

/-!
# The numbers of a sweep

How many findings a sweep has made can be read in several places: each file returns a number, the
journal tells the findings one by one and sums them up at the end, the register counts them, and the
report lists them. All of these are kept apart, and files fail, share keys and are inspected in any
order in between.

What holds them together is an account of the journal (`Course.Tally`). The findings that it has
told of, with those that the workers have still to tell of, are the findings of all files, and as
many as it has told of are in the register. A worker that records a finding takes it off what is
left, puts it into the register and tells of it; no other move does any of the three.

* `Record.tells` — the records that tell of a finding;
* `Course.Tally.start`, `Course.Tally.transition` — the account holds, and is kept;
* `Course.Tally.of_collected` — the account at the end of a sweep;
* `Report.listed` — the entries of a report;
* `SweepState.scanBy_tallies` — the numbers of a sweep that comes to its end agree.
-/

namespace HangulLint

/-! ### What the journal tells of findings -/

/-- Whether a record tells of a finding: it comes from the inspection of a file. -/
def Record.tells (record : Record FileFault) : Bool := record.channel = .files

/-- What a job has still to tell of its findings. -/
def Course.untold (entry : Job × Stage) : List (Record FileFault) :=
  (entry.2.left entry.1).map (findingRecord entry.1.path)

/-- What a job tells of its findings in all. -/
def Job.tellings (job : Job) : List (Record FileFault) := Course.untold (job, .queued)

namespace Course

variable {verbose : Bool} {course next : Course} {jobs : List Job} {place : Nat} {job : Job}
  {stage : Stage}

@[simp] theorem untold_remaining (job : Job) (left : List Finding) :
    untold (job, Stage.remaining left) = left.map (findingRecord job.path) := by
  rw [untold, Stage.left_remaining]

@[simp] theorem untold_writing (job : Job) (left : List Finding) :
    untold (job, .writing left) = left.map (findingRecord job.path) := rfl

theorem untold_of_ok {findings : List Finding} (h : job.outcome = .ok findings) :
    untold (job, .queued) = findings.map (findingRecord job.path) := by
  simp [untold, Stage.left, h]

theorem untold_of_error {fault : FileFault} (h : job.outcome = .error fault) :
    untold (job, .queued) = [] := by
  simp [untold, Stage.left, h]

/-- **The account of the findings.** -/
structure Tally (jobs : List Job) (course : Course) : Prop where
  /-- What is told, with what is left to tell, is all that there is to tell. -/
  told : (course.journal.filter Record.tells ++ course.jobs.flatMap untold).Perm
    (jobs.flatMap Job.tellings)
  /-- What is told is in the register. -/
  counted : (course.journal.filter Record.tells).length = course.register.count

theorem Tally.start (jobs : List Job) : Tally jobs (Course.start .empty jobs) where
  told := by
    rw [Course.start, List.flatMap_map]
    exact .refl _
  counted := rfl

/-- A job comes to another stage, with as much left to tell as before. -/
theorem Tally.advance (h : Tally jobs course) {stage' : Stage}
    (entry : course.jobs[place]? = some (job, stage))
    (hjobs : next.jobs = course.jobs.set place (job, stage'))
    (hregister : next.register = course.register)
    (hjournal : next.journal.filter Record.tells = course.journal.filter Record.tells)
    (hleft : untold (job, stage') = untold (job, stage)) : Tally jobs next where
  told := by
    obtain ⟨before, after, hentries, hset⟩ := exists_around entry (job, stage')
    have hsame : next.jobs.flatMap untold = course.jobs.flatMap untold := by
      rw [hjobs, hset, hentries]
      simp [hleft]
    rw [hjournal, hsame]
    exact h.told
  counted := by rw [hjournal, hregister, h.counted]

/-- **A finding is recorded.** It goes from what is left to what is told. -/
theorem Tally.record (h : Tally jobs course) {finding : Finding} {left : List Finding}
    (entry : course.jobs[place]? = some (job, .writing (finding :: left)))
    (hjobs : next.jobs = course.jobs.set place (job, Stage.remaining left))
    (hregister : next.register.findings = course.register.findings.record job.key finding)
    (hjournal : next.journal.filter Record.tells =
      course.journal.filter Record.tells ++ [findingRecord job.path finding]) :
    Tally jobs next where
  told := by
    obtain ⟨before, after, hentries, hset⟩ := exists_around entry (job, Stage.remaining left)
    -- the record stands behind what is told, and before it stood in front of what the job has left
    refine List.Perm.trans ?_ h.told
    rw [hjournal, hjobs, hset, hentries, List.append_assoc]
    refine .append_left _ ?_
    simpa using List.perm_middle.symm
  counted := by
    rw [hjournal, List.length_append, h.counted, Register.count, Register.count, hregister,
      Findings.count_record, List.length_singleton]

/-- **Preservation.** Every rule keeps the account, if nothing of what there is to remark about
single files tells of a finding. -/
theorem Tally.transition {move : Move}
    (hremarks : ∀ job ∈ jobs, ∀ record ∈ job.remarks, record.tells = false)
    (h : Tally jobs course) (hsound : Sound jobs course)
    (t : Transition verbose course move next) : Tally jobs next := by
  have hquiet : ∀ {place : Nat} {job : Job} {stage : Stage},
      course.jobs[place]? = some (job, stage) → job.remarks.filter Record.tells = [] := by
    intro place job stage entry
    have hjob : job ∈ jobs := by
      rw [← hsound.jobs_eq]
      exact List.mem_map.2 ⟨_, List.mem_of_getElem? entry, rfl⟩
    simpa using hremarks job hjob
  have hbegin : ∀ key, (beginRecord key).tells = false := fun _ => rfl
  have hfailure : ∀ key fault, (failureRecord verbose key fault).tells = false := by
    intro key fault
    unfold failureRecord
    split <;> rfl
  have hstop : interruptRecord.tells = false := rfl
  have hfinding : ∀ path finding, (findingRecord path finding).tells = true := fun _ _ => rfl
  cases t with
  | idle => exact h
  | fail entry running unread =>
    -- a file that cannot be read has nothing to tell of, before and after
    refine h.advance entry rfl rfl (by simp [hbegin, hquiet entry]) ?_
    rw [untold_of_error unread]
    rfl
  | @read place job findings entry running content =>
    refine h.advance entry (continueWith_jobs ..) (by simp) ?_ ?_
    · cases findings <;> simp [hbegin, hquiet entry]
    · rw [untold_remaining, untold_of_ok content]
  | @record place job finding left entry unsealed =>
    refine h.record entry (continueWith_jobs ..) (by simp) ?_
    cases left <;> simp [hfinding, hquiet entry]
  | refuse entry closed => exact absurd hsound.unsealed (by simp [closed])
  | collect entry running => exact h.advance entry rfl rfl rfl rfl
  | miss entry running other => exact h.advance entry rfl rfl (by simp [hfailure]) rfl
  | breakOff entry running => exact h.advance entry rfl rfl (by simp [hstop]) rfl
  | interrupt running => exact ⟨by simpa [hstop] using h.told, by simpa [hstop] using h.counted⟩

theorem Tally.run (hremarks : ∀ job ∈ jobs, ∀ record ∈ job.remarks, record.tells = false)
    (verbose : Bool) (moves : List Move) :
    Tally jobs ((Course.start .empty jobs).run verbose moves) :=
  run_induction (fun _ _ _ hsound ht h => h.transition hremarks hsound ht) moves
    (Sound.start rfl .nil jobs) (.start jobs)

/-- **The account at the end of a sweep.** Nothing is left to tell. -/
theorem Tally.of_collected (h : Tally jobs course)
    (hcollected : ∀ entry ∈ course.jobs, entry.2 = .collected) :
    (course.journal.filter Record.tells).Perm (jobs.flatMap Job.tellings) := by
  have hnone : course.jobs.flatMap untold = [] := by
    refine List.flatMap_eq_nil_iff.2 fun entry hentry => ?_
    rw [untold, hcollected entry hentry]
    rfl
  simpa [hnone] using h.told

end Course

/-! ### What a report lists -/

theorem Findings.length_entries (findings : Findings) :
    findings.entries.length = findings.count := by
  induction findings with
  | nil => rfl
  | cons entry rest ih =>
    obtain ⟨key, found⟩ := entry
    rw [entries_cons, List.length_append, List.length_map, ih, count]

namespace Report

/-- The entries of a report, in its order. -/
def listed (arranged : Bool) (findings : Findings) : List (Text × Finding) :=
  Findings.entries (if arranged then arrange findings else findings)

/-- A report has one line for each of its entries. -/
theorem render_eq_listed (arranged : Bool) (findings : Findings) :
    render arranged findings =
      (listed arranged findings).flatMap fun entry => line entry.1 entry.2 := by
  rw [render, text, listed, Findings.entries, List.flatMap_assoc]
  simp only [List.flatMap_map]

/-- An arrangement has the same entries in another order. -/
theorem entries_arrange (findings : Findings) :
    (arrange findings).entries.Perm findings.entries := by
  have hsorted : (findings.mergeSort fun a b => Text.le a.1 b.1).Perm findings :=
    List.mergeSort_perm findings _
  calc (arrange findings).entries
      = (findings.mergeSort fun a b => Text.le a.1 b.1).flatMap
          fun entry => (byLine entry.2).map (entry.1, ·) := by
        rw [Findings.entries, arrange, List.flatMap_map]
        rfl
    _ |>.Perm (findings.flatMap fun entry => (byLine entry.2).map (entry.1, ·)) :=
        hsorted.flatMap_right _
    _ |>.Perm findings.entries :=
        .flatMap_left _ fun entry _ => (byLine_perm entry.2).map _

theorem listed_perm (arranged : Bool) (findings : Findings) :
    (listed arranged findings).Perm findings.entries := by
  cases arranged with
  | false => exact .refl _
  | true => exact entries_arrange findings

/-- As many findings are listed as there are. -/
theorem length_listed (arranged : Bool) (findings : Findings) :
    (listed arranged findings).length = findings.count := by
  rw [(listed_perm arranged findings).length_eq, findings.length_entries]

/-- As many keys are listed as there are. -/
theorem length_keys_listed (arranged : Bool) {findings : Findings} (h : findings.Orderly) :
    ((listed arranged findings).map (·.1)).eraseDups.length = findings.length := by
  have hsame : ((listed arranged findings).map (·.1)).eraseDups.Perm
      (findings.entries.map (·.1)).eraseDups := by
    refine (List.perm_ext_iff_of_nodup (nodup_eraseDups _) (nodup_eraseDups _)).2 fun key => ?_
    rw [List.mem_eraseDups, List.mem_eraseDups,
      ((listed_perm arranged findings).map (·.1)).mem_iff]
  rw [hsame.length_eq, Findings.eraseDups_keys_entries h, List.length_map]

end Report

/-! ### What a file returns -/

namespace Settings

variable {settings : Settings} {conditions : Conditions}

/-- What is found in the file of a target: nothing, if it cannot be read. -/
def found (settings : Settings) (conditions : Conditions) (target : Target) : List Finding :=
  (inspect conditions.site conditions.library (conditions.guesser target.2) settings.rule
    target.2).toOption.getD []

/-- A file that can be read returns the number of its findings. -/
theorem scanOne_outcome (settings : Settings) (conditions : Conditions) (target : Target)
    {register : Register} (h : register.sealed = false) :
    (settings.scanOne conditions target.1 target.2 register).outcome =
      (inspect conditions.site conditions.library (conditions.guesser target.2) settings.rule
        target.2).map
        List.length := by
  rw [scanOne, scanFile]
  cases inspect conditions.site conditions.library (conditions.guesser target.2) settings.rule
      target.2 with
  | error fault => rfl
  | ok findings =>
    dsimp only
    rw [recordAll_of_open h]
    rfl

/-- What the job of a target tells. -/
theorem tellings_job (settings : Settings) (conditions : Conditions) (target : Target) :
    (settings.job conditions target).tellings =
      (settings.found conditions target).map (findingRecord target.2) := by
  obtain ⟨key, path⟩ := target
  rw [found]
  cases h : inspect conditions.site conditions.library (conditions.guesser path) settings.rule
      path with
  | error fault => exact Course.untold_of_error h
  | ok findings => exact Course.untold_of_ok h

theorem sum_returned (settings : Settings) (conditions : Conditions) (targets : List Target)
    {registers : Target → Register} (h : ∀ target, (registers target).sealed = false) :
    (targets.filterMap fun target =>
        (settings.scanOne conditions target.1 target.2 (registers target)).outcome.toOption).sum =
      (targets.flatMap (settings.found conditions)).length := by
  induction targets with
  | nil => rfl
  | cons target targets ih =>
    rw [List.filterMap_cons, List.flatMap_cons, List.length_append, ← ih,
      scanOne_outcome settings conditions target (h target), found]
    cases inspect conditions.site conditions.library (conditions.guesser target.2) settings.rule
      target.2 with
    | error fault => exact (Nat.zero_add _).symm
    | ok findings => exact List.sum_cons

theorem tells_of_mem_slowRecords {key : Text} {path : Path} {record : Record FileFault}
    (h : record ∈ settings.slowRecords conditions key path) : record.tells = false := by
  dsimp only [slowRecords] at h
  split at h
  · obtain rfl := List.mem_singleton.1 h
    rfl
  · simp at h

theorem course_tally (settings : Settings) (conditions : Conditions)
    (selection : Scope.Selection) (moves : List Move) :
    Course.Tally (settings.jobs conditions selection)
      (settings.course conditions selection moves) := by
  refine .run (fun job hjob record hrecord => ?_) settings.verbose moves
  obtain ⟨target, -, rfl⟩ := List.mem_map.1 hjob
  exact tells_of_mem_slowRecords hrecord

/-! ### The numbers agree -/

/-- **The numbers of a sweep agree.** Every view of a sweep comes to the same number of findings and
of files with findings. -/
structure Tallies (settings : Settings) (conditions : Conditions) (targets : List Target)
    (sweep : Sweep) (findings files : Nat) : Prop where
  /-- What the files return that can be read adds up to the findings, whatever open registers they
  meet. -/
  returned : ∀ registers : Target → Register, (∀ target, (registers target).sealed = false) →
    (targets.filterMap fun target =>
      (settings.scanOne conditions target.1 target.2 (registers target)).outcome.toOption).sum =
        findings
  /-- The journal tells once of each finding, with the name of its file, its line and its text. -/
  told : (sweep.journal.filter Record.tells).Perm
    (targets.flatMap fun target =>
      (settings.found conditions target).map (findingRecord target.2))
  /-- So there are as many such records as findings. -/
  counted : (sweep.journal.filter Record.tells).length = findings
  /-- The journal ends with the sum. -/
  summed : sweep.journal.getLast? = some (.plain .info .sweep
    (banner ++ "Scanned " ++ Text.ofNat targets.length ++ " file(s): " ++ Text.ofNat findings
      ++ " detection(s) in " ++ Text.ofNat files ++ " file(s), "
      ++ Text.ofNat sweep.state.failures.length ++ " unreadable"))
  /-- The register counts the findings and the files that have any. -/
  registered : sweep.state.register.count = findings ∧ sweep.state.register.fileCount = files
  /-- A report lists the findings, and the keys of those files. -/
  listed : ∀ arranged,
    Report.render arranged sweep.state.register.findings =
        (Report.listed arranged sweep.state.register.findings).flatMap
          (fun entry => Report.line entry.1 entry.2) ∧
      (Report.listed arranged sweep.state.register.findings).length = findings ∧
      ((Report.listed arranged sweep.state.register.findings).map (·.1)).eraseDups.length = files

end Settings

namespace Scope

variable {scope : Scope} {site : Site} {size : Path → Except OsError Nat} {selection : Selection}

/-- What is told of the choice of files tells of no finding. -/
theorem tells_select (h : scope.select site size = .ok selection) :
    ∀ record ∈ selection.journal, record.tells = false := by
  intro record hrecord
  obtain ⟨path, verdict, hverdict⟩ := exists_verdict h record hrecord
  cases verdict with
  | selected => simp [Verdict.record?] at hverdict
  | skipped => simp [Verdict.record?] at hverdict
  | tooLarge limit =>
    obtain rfl := Option.some.inj hverdict
    rfl
  | sizeUnknown error =>
    obtain rfl := Option.some.inj hverdict
    rfl

end Scope

namespace SweepState

variable {state : SweepState} {settings : Settings} {conditions : Conditions}
  {schedule : List Job → List Move} {selection : Scope.Selection}

/-- The journal of a sweep that comes to its end tells of the findings that its course tells of, and
sums up at the end. -/
theorem journal_of_running (hopen : state.register.sealed = false)
    (hroot : conditions.site.isDir settings.scope.root = .ok true)
    (hselect : settings.scope.select conditions.site conditions.size = .ok selection)
    (hrunning : (settings.course conditions selection
      (schedule (settings.jobs conditions selection))).interrupted = false) :
    let course := settings.course conditions selection
      (schedule (settings.jobs conditions selection))
    let sweep := state.scanBy settings conditions schedule
    sweep.journal.filter Record.tells = course.journal.filter Record.tells ∧
      sweep.journal.getLast? = some (summaryRecord selection.targets.length sweep.state) := by
  have hjobs : (settings.course conditions selection
      (schedule (settings.jobs conditions selection))).jobs.length = selection.targets.length := by
    rw [← List.length_map (·.1), (settings.course_sound conditions selection _).jobs_eq,
      Settings.jobs, List.length_map]
  have hchoice : selection.journal.filter Record.tells = [] :=
    List.filter_eq_nil_iff.2 fun record hrecord => by
      simp [Scope.tells_select hselect record hrecord]
  have hstart : startRecord.tells = false := rfl
  have hcount : ∀ files, (countRecord files).tells = false := fun _ => rfl
  have hsummary : ∀ files state, (summaryRecord files state).tells = false := fun _ _ => rfl
  dsimp only
  rw [scanBy_of_select hroot hselect, inspectAll_eq hopen, Settings.finish,
    if_neg (by simp [hrunning])]
  -- what is told before the first move and after the last tells of no finding
  refine ⟨by simp [hchoice, hstart, hcount, hsummary], ?_⟩
  dsimp only
  rw [← List.append_assoc, List.getLast?_concat, hjobs]

/-- **All views agree on the numbers.** A sweep that comes to its end has selected its files, and
with the number of these its journal ends. What the files return, what the journal tells of one by
one and sums up, what the register counts and what the report lists, arranged or not, is one number
of findings; and the files with findings are as many in the register, the sum and the report. -/
theorem scanBy_tallies (hexhausts : settings.Exhausts conditions schedule)
    (hok : (state.scanBy settings conditions schedule).outcome = .ok ()) :
    ∃ selection findings files,
      settings.scope.select conditions.site conditions.size = .ok selection ∧
        settings.Tallies conditions selection.targets (state.scanBy settings conditions schedule)
          findings files := by
  have hopen := open_of_ok hok
  obtain ⟨selection, hselect, hroot, hrunning, hstate⟩ := scanBy_ok hopen hok
  obtain ⟨-, horderly, -⟩ := register_of_scanBy hopen hselect hexhausts hok
  obtain ⟨hjournal, hlast⟩ := journal_of_running hopen hroot hselect hrunning
  have htally := settings.course_tally conditions selection
    (schedule (settings.jobs conditions selection))
  -- the account of the course, with the jobs of the targets
  have htold : ((state.scanBy settings conditions schedule).journal.filter Record.tells).Perm
      (selection.targets.flatMap fun target =>
        (settings.found conditions target).map (findingRecord target.2)) := by
    rw [hjournal]
    refine (htally.of_collected
      (Course.collected_of_settled (hexhausts selection hselect) hrunning)).trans ?_
    rw [Settings.jobs, List.flatMap_map]
    simp only [Settings.tellings_job, List.Perm.refl]
  have hcounted : ((state.scanBy settings conditions schedule).journal.filter Record.tells).length =
      (state.scanBy settings conditions schedule).state.register.count := by
    rw [hjournal, htally.counted, hstate]
    rfl
  refine ⟨selection, _, _, hselect, ?_, htold, hcounted, hlast, ⟨rfl, rfl⟩, fun arranged => ?_⟩
  · intro registers hregisters
    rw [settings.sum_returned conditions selection.targets hregisters, ← hcounted,
      htold.length_eq, List.length_flatMap, List.length_flatMap]
    simp only [List.length_map]
  · exact ⟨Report.render_eq_listed arranged _, Report.length_listed arranged _,
      Report.length_keys_listed arranged horderly⟩

end SweepState

/-- The findings in two files with one key are two findings under one key. -/
theorem tallies_twins :
    let sweep := SweepState.fresh.scanBy twinSettings twins twinSchedule
    sweep.outcome = .ok () ∧ twinSettings.Tallies twins twinTargets sweep 2 1 := by
  have hok : (SweepState.fresh.scanBy twinSettings twins twinSchedule).outcome = .ok () := by cbv
  have hcount : (SweepState.fresh.scanBy twinSettings twins twinSchedule).state.register.count =
      2 := by cbv
  have hfiles : (SweepState.fresh.scanBy twinSettings twins twinSchedule).state.register.fileCount =
      1 := by cbv
  refine ⟨hok, ?_⟩
  obtain ⟨selection, findings, files, hselect, htallies⟩ :=
    SweepState.scanBy_tallies (twinSettings.exhausts_append twins _ 2) hok
  obtain rfl := Except.ok.inj (select_twins.symm.trans hselect)
  obtain rfl : 2 = findings := hcount.symm.trans htallies.registered.1
  obtain rfl : 1 = files := hfiles.symm.trans htallies.registered.2
  exact htallies

end HangulLint
