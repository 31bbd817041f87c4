import HangulLint.Proofs.Chronicle
import HangulLint.Proofs.Failures
import HangulLint.Proofs.Removal
import HangulLint.Proofs.StandardRun

/-!
# Trouble with single files

Whatever keeps a file from being read stays with that file. A sweep that selects its files comes to
its end and seals its register; the files that can be read have all their findings in it, and the
others have none, but a message and a complaint in the journal; the progress bar goes on once for
each file. Without one of the unreadable files, the sweep would select the others and find the same
in them, unless a link leads to it.

What this does not cover is the selection: whether a path is that of a file is asked without a
guard, so a question that the system refuses ends the sweep before a file is read, and so does a
directory that lies too deep. A sweep keeps trouble with single files apart exactly where neither
comes up (`SweepState.isolates_iff`).

* `Settings.Isolates` — what a sweep is meant to leave;
* `Settings.exists_spared` — the sweep without one of the files;
* `SweepState.isolates_of_select` — a sweep that selects its files.
-/

namespace HangulLint

/-! ### What there is to complain of -/

namespace Scope

variable {scope : Scope} {site : Site} {size : Path → Except OsError Nat} {selection : Selection}

/-- What is told of the choice of files is no complaint. -/
theorem complains_record? {verdict : Verdict} {path : Path} {record : Record FileFault}
    (h : verdict.record? path = some record) : record.complains = false := by
  cases verdict with
  | selected => simp [Verdict.record?] at h
  | skipped => simp [Verdict.record?] at h
  | tooLarge limit =>
    obtain rfl := Option.some.inj h
    exact Record.complains_of_level (by simp [Record.plain])
  | sizeUnknown error =>
    obtain rfl := Option.some.inj h
    rfl

theorem complains_select (h : scope.select site size = .ok selection) :
    ∀ record ∈ selection.journal, record.complains = false := by
  intro record hrecord
  obtain ⟨path, verdict, hverdict⟩ := exists_verdict h record hrecord
  exact complains_record? hverdict

end Scope

namespace Settings

variable {settings : Settings} {conditions : Conditions} {selection : Scope.Selection}

/-- The complaint of a file that cannot be read. -/
def complaint? (settings : Settings) (conditions : Conditions) (target : Target) :
    Option (Record FileFault) :=
  match readSource conditions.site conditions.library (conditions.guesser target.2) target.2 with
  | .error fault => some (Course.failureRecord settings.verbose target.1 fault)
  | .ok _ => none

theorem outcome_job (settings : Settings) (conditions : Conditions) (target : Target) :
    (settings.job conditions target).outcome =
      (readSource conditions.site conditions.library (conditions.guesser target.2) target.2).map
        (findingsIn settings.rule) := rfl

theorem complaintRecord?_job (hundisturbed : conditions.Undisturbed) (target : Target) :
    (settings.job conditions target).complaintRecord? settings.verbose =
      settings.complaint? conditions target := by
  have hother : readSource conditions.site conditions.library
      (conditions.guesser target.2) target.2 ≠
      .error .interrupted := readSource_ne_interrupted (hundisturbed target.2)
  rw [Job.complaintRecord?, outcome_job, complaint?]
  cases hread : readSource conditions.site conditions.library
      (conditions.guesser target.2) target.2 with
  | ok content => rfl
  | error fault =>
    -- only of an interruption there would be no complaint
    have hfault : fault ≠ .interrupted := by
      rintro rfl
      exact hother hread
    exact if_neg hfault

/-- The message of a file is that of the fault that keeps it from being read. -/
theorem complaint?_job (target : Target) {message : Text} :
    (settings.job conditions target).complaint? = some message ↔ ∃ fault,
      readSource conditions.site conditions.library (conditions.guesser target.2) target.2 =
        .error fault ∧
        fault.message = message := by
  rw [Job.complaint?, outcome_job]
  cases hread : readSource conditions.site conditions.library
      (conditions.guesser target.2) target.2 <;>
    simp [Except.map]

/-- A message that is that of a job is that of a file that cannot be read. -/
theorem exists_unread {key message : Text} (h : ∃ job ∈ settings.jobs conditions selection,
      job.key = key ∧ job.complaint? = some message) :
    ∃ path fault, (key, path) ∈ selection.targets ∧
      readSource conditions.site conditions.library (conditions.guesser path) path = .error fault ∧
      fault.message = message := by
  obtain ⟨job, hjob, hkey, hcomplaint⟩ := h
  obtain ⟨⟨key', path⟩, htarget, rfl⟩ := List.mem_map.1 hjob
  obtain rfl : key' = key := hkey
  obtain ⟨fault, hread, hmessage⟩ := (complaint?_job _).1 hcomplaint
  exact ⟨path, fault, htarget, hread, hmessage⟩

/-! ### What a sweep is meant to leave -/

/-- **Trouble with single files stays with them.** What a sweep leaves of the files that it has
selected. -/
structure Isolates (settings : Settings) (conditions : Conditions) (selection : Scope.Selection)
    (sweep : Sweep) : Prop where
  /-- The sweep comes to its end. -/
  returns : sweep.outcome = .ok ()
  /-- Its register is sealed. -/
  closed : sweep.state.register.sealed = true
  /-- Every finding in a file that can be read is under the key of the file, in the order of the
  lines. -/
  read : ∀ key path content, (key, path) ∈ selection.targets →
    readSource conditions.site conditions.library (conditions.guesser path) path = .ok content →
    (findingsIn settings.rule content).Sublist (sweep.state.register.findings.under key)
  /-- Nothing else is in the register: what is under a key are the findings in the readable files
  with that key, none of them twice. -/
  findings : ∀ key, Shuffle (selection.targets.filterMap (settings.share conditions key))
    (sweep.state.register.findings.under key)
  /-- There is a message under a key exactly if a file with that key cannot be read. -/
  failed : ∀ key, sweep.state.failures.lookup key ≠ none ↔ ∃ path fault,
    (key, path) ∈ selection.targets ∧
      readSource conditions.site conditions.library (conditions.guesser path) path = .error fault
  /-- The message is that of such a file. -/
  message : ∀ key message, sweep.state.failures.lookup key = some message → ∃ path fault,
    (key, path) ∈ selection.targets ∧
      readSource conditions.site conditions.library (conditions.guesser path) path = .error fault ∧
      fault.message = message
  /-- The journal complains once of each file that cannot be read, and of nothing else. -/
  complaints : (sweep.journal.filter Record.complains).Perm
    (selection.targets.filterMap (settings.complaint? conditions))
  /-- The progress bar, if there is one, has gone on once for each file, and is closed. -/
  bar : ∀ bar, sweep.bar = some bar → bar.total = selection.targets.length ∧
    bar.updates = selection.targets.length ∧ bar.closed = true
  /-- Without a file that cannot be read and that no link leads to, a sweep selects the others, and
  the same comes of each of them. -/
  spared : ∀ key path fault, (key, path) ∈ selection.targets →
    readSource conditions.site conditions.library (conditions.guesser path) path = .error fault →
    conditions.site.SoleWay path → ∃ others,
      settings.scope.select (conditions.without path).site (conditions.without path).size =
        .ok others ∧
      others.targets = selection.targets.filter (·.2 ≠ path) ∧
      ∀ other ∈ others.targets,
        settings.job (conditions.without path) other = settings.job conditions other

/-- The sweep without one of the files. -/
theorem exists_spared {location : Location}
    (hroot : conditions.site.isDir settings.scope.root = .ok true)
    (hland : conditions.site.land settings.scope.root = .ok (.directory location))
    (hselect : settings.scope.select conditions.site conditions.size = .ok selection)
    {key : Text} {path : Path} (htarget : (key, path) ∈ selection.targets)
    (hsole : conditions.site.SoleWay path) :
    ∃ others, settings.scope.select (conditions.without path).site (conditions.without path).size =
        .ok others ∧
      others.targets = selection.targets.filter (·.2 ≠ path) ∧
      ∀ other ∈ others.targets,
        settings.job (conditions.without path) other = settings.job conditions other := by
  obtain ⟨names, node, hproper, hentry, hpicks, htarget'⟩ :=
    (Scope.mem_select hroot hland hselect).1 htarget
  obtain ⟨-, rfl⟩ := Prod.mk.inj htarget'
  obtain ⟨there, bytes, hfile⟩ := Site.land_of_isFile (Scope.picks_iff.1 hpicks).2.1
  -- what is selected is a file below the root, so that it can be taken out
  have hmember : settings.scope.Member conditions.site location names there bytes :=
    ⟨hroot, hland, hproper, ⟨node, hentry⟩, hfile, hsole⟩
  obtain ⟨others, hothers, htargets⟩ := hmember.select_remove hselect
  refine ⟨others, hothers, htargets, fun other hother => ?_⟩
  rw [htargets] at hother
  obtain ⟨hfound, hne⟩ := List.mem_filter.1 hother
  exact job_without hmember hselect hfound (by simpa using hne)

end Settings

namespace SweepState

variable {state : SweepState} {settings : Settings} {conditions : Conditions}
  {schedule : List Job → List Move} {selection : Scope.Selection} {location : Location}

/-- What a sweep leaves that has taken notice of all its files. -/
theorem scanBy_of_running (hopen : state.register.sealed = false)
    (hroot : conditions.site.isDir settings.scope.root = .ok true)
    (hselect : settings.scope.select conditions.site conditions.size = .ok selection)
    (hrunning : (settings.course conditions selection
      (schedule (settings.jobs conditions selection))).interrupted = false) :
    let course := settings.course conditions selection
      (schedule (settings.jobs conditions selection))
    let sweep := state.scanBy settings conditions schedule
    sweep.state.failures = course.failures ∧ sweep.bar = settings.bar course ∧
      sweep.journal.filter Record.complains = course.journal.filter Record.complains := by
  dsimp only
  rw [scanBy_of_select hroot hselect, inspectAll_eq hopen, Settings.finish,
    if_neg (by simp [hrunning])]
  refine ⟨rfl, rfl, ?_⟩
  -- what is told before the first move and after the last is no complaint
  have hchoice : selection.journal.filter Record.complains = [] :=
    List.filter_eq_nil_iff.2 fun record hrecord => by
      simp [Scope.complains_select hselect record hrecord]
  have hstart : startRecord.complains = false :=
    Record.complains_of_level (by simp [startRecord, Record.plain])
  have hcount : ∀ files, (countRecord files).complains = false := fun files =>
    Record.complains_of_level (by simp [countRecord, Record.plain])
  have hsummary : ∀ files state, (summaryRecord files state).complains = false := fun files state =>
    Record.complains_of_level (by simp [summaryRecord, Record.plain])
  simp [hchoice, hstart, hcount, hsummary]

/-- **A sweep that selects its files.** -/
theorem isolates_of_select (hopen : state.register.sealed = false)
    (hroot : conditions.site.isDir settings.scope.root = .ok true)
    (hland : conditions.site.land settings.scope.root = .ok (.directory location))
    (hundisturbed : conditions.Undisturbed) (hexhausts : settings.Exhausts conditions schedule)
    (hmoves : ∀ jobs, Move.interrupt ∉ schedule jobs)
    (hselect : settings.scope.select conditions.site conditions.size = .ok selection) :
    settings.Isolates conditions selection (state.scanBy settings conditions schedule) := by
  -- neither the user nor a guesser interrupts the sweep, so it comes to its end
  have hok : (state.scanBy settings conditions schedule).outcome = .ok () := by
    refine outcome_of_uninterrupted hopen hroot hselect (hmoves _) fun job hjob => ?_
    obtain ⟨target, -, rfl⟩ := List.mem_map.1 hjob
    exact inspect_ne_interrupted (hundisturbed target.2)
  obtain ⟨hsealed, -, hshuffle⟩ := register_of_scanBy hopen hselect hexhausts hok
  obtain ⟨selection', hselect', -, hrunning, -⟩ := scanBy_ok hopen hok
  obtain rfl : selection = selection' := Except.ok.inj (hselect.symm.trans hselect')
  -- the sweep has taken notice of every file
  have hsound := settings.course_sound conditions selection
    (schedule (settings.jobs conditions selection))
  have hcollected := Course.collected_of_settled (hexhausts selection hselect) hrunning
  have hlookup := Course.lookup_failures
    (.run _ settings.verbose (schedule (settings.jobs conditions selection))) hsound hcollected
    hrunning
  obtain ⟨hnoticed, hcomplaints⟩ := (settings.course_chronicle conditions selection
    (schedule (settings.jobs conditions selection))).of_collected hsound hcollected
  obtain ⟨hfailures, hbar, hjournal⟩ := scanBy_of_running hopen hroot hselect hrunning
  exact {
    returns := hok
    closed := hsealed
    findings := hshuffle
    -- the findings in a file are one of the lists that are shuffled
    read := fun key path content htarget hread => (hshuffle key).sublist _
      (List.mem_filterMap.2 ⟨_, htarget, Settings.share_eq_some.2 ⟨rfl, content, hread, rfl⟩⟩)
    failed := by
      intro key
      rw [hfailures]
      constructor
      · intro hne
        obtain ⟨message, hmessage⟩ := Option.ne_none_iff_exists'.1 hne
        obtain ⟨path, fault, htarget, hread, -⟩ :=
          Settings.exists_unread ((hlookup key).1 message hmessage)
        exact ⟨path, fault, htarget, hread⟩
      · rintro ⟨path, fault, htarget, hread⟩ hnone
        -- without a message, the file would have nothing to complain of
        have hquiet : (settings.job conditions (key, path)).complaint? = none :=
          (hlookup key).2 hnone _ (List.mem_map_of_mem htarget) rfl
        have hcomplaint : (settings.job conditions (key, path)).complaint? = some fault.message :=
          (Settings.complaint?_job (key, path)).2 ⟨fault, hread, rfl⟩
        exact absurd (hquiet.symm.trans hcomplaint) (by simp)
    message := by
      intro key message hmessage
      rw [hfailures] at hmessage
      exact Settings.exists_unread ((hlookup key).1 message hmessage)
    complaints := by
      rw [hjournal, ← List.filterMap_congr fun target _ =>
        Settings.complaintRecord?_job hundisturbed target]
      rwa [Settings.jobs, List.filterMap_map] at hcomplaints
    bar := by
      intro bar hsome
      obtain ⟨hclosed, htotal, hcount⟩ := Settings.bar_course (hbar.symm.trans hsome)
      refine ⟨htotal, ?_, hclosed⟩
      rw [hcount, hnoticed, Settings.jobs, List.length_map]
    spared := fun key path fault htarget _ hsole =>
      Settings.exists_spared hroot hland hselect htarget hsole }

/-- **When trouble with single files stays with them.** Whatever the state before, as long as its
register is open, in whatever order the workers get along, and whatever guessers answer short of an
interruption, a sweep of a directory comes to its end and keeps trouble with single files apart
exactly if the system refuses no question that comes up and no directory is too deep. -/
theorem isolates_iff (hopen : state.register.sealed = false)
    (hroot : conditions.site.isDir settings.scope.root = .ok true)
    (hland : conditions.site.land settings.scope.root = .ok (.directory location))
    (hundisturbed : conditions.Undisturbed) (hexhausts : settings.Exhausts conditions schedule)
    (hmoves : ∀ jobs, Move.interrupt ∉ schedule jobs) :
    (∃ selection, settings.scope.select conditions.site conditions.size = .ok selection ∧
        settings.Isolates conditions selection (state.scanBy settings conditions schedule)) ↔
      settings.scope.InReach conditions.site location := by
  rw [← Scope.exists_select_iff hroot hland]
  constructor
  · rintro ⟨selection, -, h⟩
    -- a sweep that comes to its end has selected its files
    obtain ⟨selection', hselect, -⟩ := scanBy_ok hopen h.returns
    exact ⟨selection', hselect⟩
  · rintro ⟨selection, hselect⟩
    exact ⟨selection, hselect,
      isolates_of_select hopen hroot hland hundisturbed hexhausts hmoves hselect⟩

end SweepState

/-! ### A file that is binary, and a link to a name that is too long -/

/-- **A binary file beside a source.** Its message is kept, and the source has its finding. -/
theorem isolates_pair :
    let conditions := (pairLaunch (.file [0])).conditions
    let sweep := SweepState.fresh.scan twinSettings conditions
    sweep.state = ⟨⟨[("d/a.cs", [⟨2, "x \"나\""⟩])], true⟩,
        [("d/x.cs", "Unable to read d/x.cs: file looks binary")]⟩ ∧
      ∃ selection, twinSettings.scope.select conditions.site conditions.size = .ok selection ∧
        twinSettings.Isolates conditions selection sweep := by
  have hroot : (pairLaunch (.file [0])).conditions.site.isDir twinSettings.scope.root =
      .ok true := by cbv
  have hland : (pairLaunch (.file [0])).conditions.site.land twinSettings.scope.root =
      .ok (.directory ["d"]) := by cbv
  have hselect : twinSettings.scope.select (pairLaunch (.file [0])).conditions.site
      (pairLaunch (.file [0])).conditions.size =
        .ok ⟨[("d/a.cs", ⟨.here, ["d", "a.cs"]⟩), ("d/x.cs", ⟨.here, ["d", "x.cs"]⟩)], []⟩ := by
    cbv
  refine ⟨by cbv, ?_⟩
  exact (SweepState.isolates_iff rfl hroot hland undisturbed_twins
    (Settings.exhausts_inOrder _ _ _) (fun _ => thorough_inOrder.uninterrupted _ _)).2
    ((Scope.exists_select_iff hroot hland).1 ⟨_, hselect⟩)

set_option maxRecDepth 2000 in
/-- **A link to a name that is too long** keeps all files from being read. -/
theorem not_isolates_link :
    SweepState.fresh.register.sealed = false ∧
      (pairLaunch farLink).conditions.site.isDir twinSettings.scope.root = .ok true ∧
      (pairLaunch farLink).conditions.Undisturbed ∧
      ¬ ∃ selection, twinSettings.scope.select (pairLaunch farLink).conditions.site
          (pairLaunch farLink).conditions.size = .ok selection ∧
        twinSettings.Isolates (pairLaunch farLink).conditions selection
          (SweepState.fresh.scan twinSettings (pairLaunch farLink).conditions) := by
  refine ⟨rfl, by cbv, undisturbed_twins, ?_⟩
  rintro ⟨selection, -, h⟩
  -- whether the link is a file is a question that is refused
  have houtcome : (SweepState.fresh.scan twinSettings (pairLaunch farLink).conditions).outcome =
      .error (.hindered (.os ⟨.nameTooLong, "d/x.cs"⟩)) := by cbv
  exact absurd (houtcome.symm.trans h.returns) (by simp)

end HangulLint
