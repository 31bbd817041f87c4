import HangulLint.Encoding.Charset
import HangulLint.Proofs.Content
import HangulLint.Proofs.Schedule
import HangulLint.Proofs.Shuffle
import Mathlib

/-!
# Nothing is lost between the workers

However the workers get along, the findings under a key are a shuffle of those in the files with
that key: each file's findings come in their order, none is lost, and none comes twice. Several
files can share a key, and their findings can then lie between one another in any way.

The invariant looks ahead (`Course.Merges`): whatever way of shuffling what is still left to
record comes next, putting it behind what is recorded gives a shuffle of all there is to record.
Before the first move nothing is recorded and the two are the same; a move that records a finding
takes it off the front of what its file has left; when nothing is left, what is recorded is a
shuffle of all.

* `Course.Merges.start`, `Course.Merges.transition` — the invariant holds, and is kept;
* `Course.shuffle_of_collected` — what it says at the end of a sweep;
* `SweepState.scanBy_shuffles` — the findings that a sweep registers.
-/

namespace HangulLint

/-- What a job records under a key: the findings in its file, if that can be read and has the
key. -/
def Job.share (key : Text) (job : Job) : Option (List Finding) :=
  if job.key = key then job.outcome.toOption else none

namespace Course

variable {verbose : Bool} {course next : Course} {jobs : List Job} {key : Text}

/-- What of its share a job has still to record under a key. -/
def pending (key : Text) (entry : Job × Stage) : Option (List Finding) :=
  (entry.1.share key).map fun _ => entry.2.left entry.1

theorem pending_of_error {job : Job} {fault : FileFault} (h : job.outcome = .error fault)
    (key : Text) (stage : Stage) : pending key (job, stage) = none := by
  unfold pending Job.share
  rw [h]
  split <;> rfl

theorem pending_queued (key : Text) (job : Job) : pending key (job, .queued) = job.share key := by
  unfold pending Job.share
  by_cases hkey : job.key = key
  · cases houtcome : job.outcome <;> simp [hkey, Stage.left, houtcome, Except.toOption]
  · simp [hkey]

/-- The invariant: any shuffle of what is left, put behind what is recorded, is a shuffle of all
that is to be recorded. -/
def Merges (jobs : List Job) (course : Course) : Prop :=
  ∀ key whole, Shuffle (course.jobs.filterMap (pending key)) whole →
    Shuffle (jobs.filterMap (Job.share key)) (course.register.findings.under key ++ whole)

theorem Merges.start (jobs : List Job) : Merges jobs (Course.start .empty jobs) := by
  intro key whole h
  -- nothing is recorded, and what is left is all there is
  have hpending : (Course.start .empty jobs).jobs.filterMap (pending key) =
      jobs.filterMap (Job.share key) := by
    rw [Course.start, List.filterMap_map]
    exact List.filterMap_congr fun job _ => pending_queued key job
  rwa [hpending] at h

theorem exists_around {entries : List (Job × Stage)} {place : Nat} {entry : Job × Stage}
    (h : entries[place]? = some entry) (entry' : Job × Stage) :
    ∃ before after, entries = before ++ entry :: after ∧
      entries.set place entry' = before ++ entry' :: after := by
  obtain ⟨hlt, rfl⟩ := List.getElem?_eq_some_iff.1 h
  obtain ⟨before, after, hentries, -, hset⟩ :
      ∃ before after, entries = before ++ entries[place] :: after ∧ before.length = place ∧
        entries.set place entry' = before ++ entry' :: after := List.exists_of_set hlt
  exact ⟨before, after, hentries, hset⟩

/-- A job that comes to another stage, where nothing is read off it that was not before. -/
theorem filterMap_set {α : Type} (f : Job × Stage → Option α) {entries : List (Job × Stage)}
    {place : Nat} {job : Job} {stage stage' : Stage} (entry : entries[place]? = some (job, stage))
    (h : f (job, stage') = f (job, stage)) :
    (entries.set place (job, stage')).filterMap f = entries.filterMap f := by
  obtain ⟨before, after, hentries, hset⟩ := exists_around entry (job, stage')
  rw [hset, hentries, List.filterMap_append, List.filterMap_append, List.filterMap_cons,
    List.filterMap_cons, h]

/-- A change that records nothing and leaves as much to record as before. -/
theorem Merges.advance (h : Merges jobs course) {place : Nat} {job : Job} {stage stage' : Stage}
    (entry : course.jobs[place]? = some (job, stage))
    (hjobs : next.jobs = course.jobs.set place (job, stage'))
    (hregister : next.register = course.register)
    (hpending : ∀ key, pending key (job, stage') = pending key (job, stage)) :
    Merges jobs next := by
  intro key whole hwhole
  rw [hjobs, filterMap_set (pending key) entry (hpending key)] at hwhole
  rw [hregister]
  exact h key whole hwhole

/-- **A finding is recorded.** It goes from the front of what its file has left to the end of what
is recorded. -/
theorem Merges.record (h : Merges jobs course) {place : Nat} {job : Job} {finding : Finding}
    {done left : List Finding}
    (entry : course.jobs[place]? = some (job, .writing (finding :: left)))
    (content : job.outcome = .ok (done ++ finding :: left))
    (hjobs : next.jobs = course.jobs.set place (job, Stage.remaining left))
    (hregister : next.register.findings = course.register.findings.record job.key finding) :
    Merges jobs next := by
  intro key whole hwhole
  rw [hjobs] at hwhole
  rw [hregister, Findings.under_record]
  by_cases hkey : job.key = key
  · -- the finding is the first unit of what is left, taken from the share of the job
    rw [if_pos hkey, List.append_assoc]
    apply h
    have hshare : job.share key = some (done ++ finding :: left) := by
      rw [Job.share, if_pos hkey, content]
      rfl
    obtain ⟨before, after, hentries, hset⟩ := exists_around entry (job, Stage.remaining left)
    have hafter : pending key (job, Stage.remaining left) = some left := by
      simp [pending, hshare]
    have hbefore : pending key (job, .writing (finding :: left)) = some (finding :: left) := by
      simp [pending, hshare, Stage.left]
    rw [hset, List.filterMap_append, List.filterMap_cons, hafter] at hwhole
    rw [hentries, List.filterMap_append, List.filterMap_cons, hbefore]
    exact .take hwhole
  · -- under other keys, neither what is recorded nor what is left has changed
    rw [if_neg hkey]
    apply h
    rwa [filterMap_set (pending key) entry] at hwhole
    simp [pending, Job.share, hkey]

/-- **Preservation.** Every rule keeps the invariant. -/
theorem Merges.transition {move : Move} (h : Merges jobs course) (hsound : Sound jobs course)
    (t : Transition verbose course move next) : Merges jobs next := by
  cases t with
  | idle => exact h
  | fail entry running unread =>
    -- a file that cannot be read has no share, before and after
    refine h.advance entry rfl rfl fun key => ?_
    rw [pending_of_error unread, pending_of_error unread]
  | @read place job findings entry running content =>
    -- reading turns what the job has to record into what it has left
    refine h.advance entry (continueWith_jobs ..) (by simp) fun key => ?_
    have hqueued : Stage.left job .queued = findings := by simp [Stage.left, content]
    rw [pending, pending, Stage.left_remaining, hqueued]
  | record entry unsealed =>
    cases hsound.reaches_of_entry entry with
    | writing content more =>
      exact h.record entry content (continueWith_jobs ..) (by simp)
  | refuse entry closed => exact absurd hsound.unsealed (by simp [closed])
  | collect entry running =>
    -- nothing was left, and nothing is
    exact h.advance entry rfl rfl fun _ => rfl
  | miss entry running other => exact h.advance entry rfl rfl fun _ => rfl
  | breakOff entry running => exact h.advance entry rfl rfl fun _ => rfl
  | interrupt running => exact h

theorem Merges.run (jobs : List Job) (verbose : Bool) (moves : List Move) :
    Merges jobs ((Course.start .empty jobs).run verbose moves) :=
  run_induction (fun _ _ _ hsound ht h => h.transition hsound ht) moves
    (Sound.start rfl .nil jobs) (.start jobs)

/-- When the sweep has taken notice of every file, what is recorded is a shuffle of all findings. -/
theorem shuffle_of_collected (h : Merges jobs course)
    (hcollected : ∀ entry ∈ course.jobs, entry.2 = .collected) (key : Text) :
    Shuffle (jobs.filterMap (Job.share key)) (course.register.findings.under key) := by
  have hdone : Shuffle (course.jobs.filterMap (pending key)) [] := by
    -- no file has anything left
    refine .done fun part hpart => ?_
    obtain ⟨⟨job, stage⟩, hentry, hpending⟩ := List.mem_filterMap.1 hpart
    obtain rfl : stage = .collected := hcollected _ hentry
    obtain ⟨-, -, rfl⟩ := Option.map_eq_some_iff.1 hpending
    rfl
  simpa using h key [] hdone

/-- A sweep that is settled and was not interrupted has taken notice of every file. -/
theorem collected_of_settled (hsettled : course.Settled) (hrunning : course.interrupted = false) :
    ∀ entry ∈ course.jobs, entry.2 = .collected :=
  fun entry hentry => (hsettled entry hentry).resolve_right fun h =>
    absurd h.1 (by simp [hrunning])

end Course

/-! ### What a sweep registers -/

namespace Settings

/-- What is found in the file of a target, if the file can be read and has the key. -/
def share (settings : Settings) (conditions : Conditions) (key : Text) (target : Target) :
    Option (List Finding) :=
  if target.1 = key then
    (readSource conditions.site conditions.library
        (conditions.guesser target.2) target.2).toOption.map
      (findingsIn settings.rule)
  else none

variable {settings : Settings} {conditions : Conditions} {key : Text}

theorem filterMap_job_share (settings : Settings) (conditions : Conditions)
    (targets : List Target) (key : Text) :
    (targets.map (settings.job conditions)).filterMap (Job.share key) =
      targets.filterMap (settings.share conditions key) := by
  rw [List.filterMap_map]
  refine List.filterMap_congr fun target _ => ?_
  obtain ⟨k, path⟩ := target
  simp only [Function.comp_apply, Job.share, share, job, inspect]
  cases readSource conditions.site conditions.library (conditions.guesser path) path <;> rfl

/-- Only the targets with a key contribute to it. -/
theorem filterMap_share (settings : Settings) (conditions : Conditions) (key : Text)
    (targets : List Target) :
    targets.filterMap (settings.share conditions key) =
      (targets.filter (·.1 = key)).filterMap (settings.share conditions key) := by
  rw [List.filterMap_filter]
  refine List.filterMap_congr fun target _ => ?_
  by_cases hkey : target.1 = key <;> simp [share, hkey]

theorem share_eq_some {target : Target} {found : List Finding} :
    settings.share conditions key target = some found ↔ target.1 = key ∧ ∃ content,
      readSource conditions.site conditions.library (conditions.guesser target.2) target.2 =
        .ok content ∧
        findingsIn settings.rule content = found := by
  unfold share
  split
  · next hkey =>
    cases readSource conditions.site conditions.library (conditions.guesser target.2) target.2 <;>
      simp [hkey, Except.toOption]
  · next hkey => simp [hkey]

/-! ### What a shuffle of the targets' shares says -/

section Shares

variable {targets : List Target} {findings : Findings} {path : Path}

/-- What the register holds under a key is found in a file with that key. -/
theorem exists_target (hshuffle : ∀ key, Shuffle (targets.filterMap (settings.share conditions key))
    (findings.under key)) {finding : Finding} :
    finding ∈ findings.under key ↔ ∃ path content, (key, path) ∈ targets ∧
      readSource conditions.site conditions.library (conditions.guesser path) path = .ok content ∧
      finding ∈ findingsIn settings.rule content := by
  rw [(hshuffle key).mem_iff]
  constructor
  · rintro ⟨found, hfound, hmem⟩
    obtain ⟨⟨k, path⟩, htarget, hshare⟩ := List.mem_filterMap.1 hfound
    obtain ⟨rfl, content, hread, rfl⟩ := Settings.share_eq_some.1 hshare
    exact ⟨path, content, htarget, hread, hmem⟩
  · rintro ⟨path, content, htarget, hread, hmem⟩
    exact ⟨_, List.mem_filterMap.2
      ⟨_, htarget, Settings.share_eq_some.2 ⟨rfl, content, hread, rfl⟩⟩, hmem⟩

/-- Under a key that one file has lies what is found in that file. -/
theorem under_eq_findingsIn
    (hshuffle : ∀ key, Shuffle (targets.filterMap (settings.share conditions key))
      (findings.under key))
    (honly : targets.filter (·.1 = key) = [(key, path)]) {content : List Char}
    (hread : readSource conditions.site conditions.library (conditions.guesser path) path =
      .ok content) :
    findings.under key = findingsIn settings.rule content := by
  have hshares : targets.filterMap (settings.share conditions key) =
      [findingsIn settings.rule content] := by
    rw [settings.filterMap_share, honly]
    exact List.filterMap_cons_some (Settings.share_eq_some.2 ⟨rfl, content, hread, rfl⟩)
  have hunder := hshuffle key
  rwa [hshares, Shuffle.singleton_iff] at hunder

end Shares

end Settings

namespace SweepState

variable {state : SweepState} {settings : Settings} {conditions : Conditions}
  {schedule : List Job → List Move} {selection : Scope.Selection}

/-- The register of a sweep that comes to its end is sealed, is in order, and holds under each key
a shuffle of what is found in the files with that key. -/
theorem register_of_scanBy (hopen : state.register.sealed = false)
    (hselect : settings.scope.select conditions.site conditions.size = .ok selection)
    (hexhausts : settings.Exhausts conditions schedule)
    (hok : (state.scanBy settings conditions schedule).outcome = .ok ()) :
    let register := (state.scanBy settings conditions schedule).state.register
    register.sealed = true ∧ register.findings.Orderly ∧ ∀ key,
      Shuffle (selection.targets.filterMap (settings.share conditions key))
        (register.findings.under key) := by
  obtain ⟨selection', hselect', -, hrunning, hstate⟩ := scanBy_ok hopen hok
  obtain rfl : selection = selection' := Except.ok.inj (hselect.symm.trans hselect')
  rw [hstate]
  refine ⟨rfl, (settings.course_sound conditions selection _).orderly, fun key => ?_⟩
  rw [← settings.filterMap_job_share]
  exact Course.shuffle_of_collected (.run _ settings.verbose _)
    (Course.collected_of_settled (hexhausts selection hselect) hrunning) key

/-- **Nothing is lost, nothing comes twice, and every file keeps its order.** However the moves of
a sweep are interleaved, its register is open while it goes on, and the sweep comes to its end if
nothing interrupts it. When it has come to its end, the register is sealed and no key comes twice
in it; under each key lies a shuffle of the findings in the readable files with that key. So a key
that one file has holds exactly the findings in that file, with line numbers that go up, and a key
is there exactly if there is a finding in a file that has it. -/
theorem scanBy_shuffles (hopen : state.register.sealed = false)
    (hselect : settings.scope.select conditions.site conditions.size = .ok selection) :
    (∀ moves, (settings.course conditions selection moves).register.sealed = false) ∧
    (conditions.site.isDir settings.scope.root = .ok true →
      Move.interrupt ∉ schedule (settings.jobs conditions selection) →
      (∀ job ∈ settings.jobs conditions selection, job.outcome ≠ .error .interrupted) →
      (state.scanBy settings conditions schedule).outcome = .ok ()) ∧
    (settings.Exhausts conditions schedule →
      (state.scanBy settings conditions schedule).outcome = .ok () →
      let register := (state.scanBy settings conditions schedule).state.register
      register.sealed = true ∧
      (register.findings.map (·.1)).Nodup ∧
      (∀ key, Shuffle (selection.targets.filterMap (settings.share conditions key))
        (register.findings.under key)) ∧
      (∀ key path content, selection.targets.filter (·.1 = key) = [(key, path)] →
        readSource conditions.site conditions.library (conditions.guesser path) path = .ok content →
        register.findings.under key = findingsIn settings.rule content ∧
          (register.findings.under key).Pairwise (·.line < ·.line)) ∧
      (∀ key, key ∈ register.findings.map (·.1) ↔ ∃ path content, (key, path) ∈ selection.targets ∧
        readSource conditions.site conditions.library (conditions.guesser path) path = .ok content ∧
        findingsIn settings.rule content ≠ [])) := by
  refine ⟨fun moves => (settings.course_sound conditions selection moves).unsealed,
    fun hroot => outcome_of_uninterrupted hopen hroot hselect, fun hexhausts hok => ?_⟩
  obtain ⟨hsealed, horderly, hshuffle⟩ := register_of_scanBy hopen hselect hexhausts hok
  refine ⟨hsealed, horderly.nodup, hshuffle, ?_, ?_⟩
  · -- a single share can be shuffled in one way only
    intro key path content honly hread
    rw [Settings.under_eq_findingsIn hshuffle honly hread]
    exact ⟨rfl, pairwise_findingsFrom settings.rule 1 content⟩
  · -- a key is there exactly if a finding is under it, and that is one of a file with this key
    intro key
    rw [horderly.key_mem_iff]
    constructor
    · intro hne
      obtain ⟨finding, hfinding⟩ := List.exists_mem_of_ne_nil _ hne
      obtain ⟨path, content, htarget, hread, hmem⟩ :=
        (Settings.exists_target hshuffle).1 hfinding
      exact ⟨path, content, htarget, hread, List.ne_nil_of_mem hmem⟩
    · rintro ⟨path, content, htarget, hread, hne⟩
      obtain ⟨finding, hmem⟩ := List.exists_mem_of_ne_nil _ hne
      exact List.ne_nil_of_mem
        ((Settings.exists_target hshuffle).2 ⟨path, content, htarget, hread, hmem⟩)

end SweepState

/-! ### Two files with one key -/

/-- A tree in which two files share a key: a backslash in a name becomes a slash. -/
def twinTree : FileTree where
  entries := [
    ([("d" : Text)], .directory),
    (["d", "a\\b.cs"], .file "x \"하\"".toUTF8.data.toList),
    (["d", "a"], .directory),
    (["d", "a", "b.cs"], .file "y \"가\"".toUTF8.data.toList)]
  nodup := by decide
  housed := by decide
  named := by decide

/-- What a sweep of that tree meets. -/
def twins : Conditions where
  site := ⟨twinTree, [], standardLevels⟩
  library := Charset.library
  guesser := fun _ _ => .label none
  size := fun _ => .ok 9
  elapsed := fun _ => 0

/-- A sweep of that tree. -/
def twinSettings : Settings where
  scope := ⟨⟨.here, ["d"]⟩, standardGlobs.map fun glob => Glob.parse glob, [], none⟩
  rule := .standard
  workers := 2
  verbose := false
  caption := none
  slowAfter := standardSlowAfter

def twinTargets : List Target :=
  [("d/a/b.cs", ⟨.here, ["d", "a\\b.cs"]⟩), ("d/a/b.cs", ⟨.here, ["d", "a", "b.cs"]⟩)]

/-- A schedule by which the finding in the second file is recorded before that in the first. -/
def twinSchedule (jobs : List Job) : List Move := [.begin 1, .record 1] ++ inOrder 2 jobs

theorem select_twins :
    twinSettings.scope.select twins.site twins.size = .ok ⟨twinTargets, []⟩ := by cbv

/-- The findings in both files are there, that of the second file first. -/
theorem scanBy_shuffles_twins :
    let register := (SweepState.fresh.scanBy twinSettings twins twinSchedule).state.register
    register.findings.under "d/a/b.cs" = [⟨1, "y \"가\""⟩, ⟨1, "x \"하\""⟩] ∧
      Shuffle [[⟨1, "x \"하\""⟩], [⟨1, "y \"가\""⟩]] (register.findings.under "d/a/b.cs") := by
  refine ⟨by cbv, ?_⟩
  have hok : (SweepState.fresh.scanBy twinSettings twins twinSchedule).outcome = .ok () := by cbv
  have hopen : SweepState.fresh.register.sealed = false := rfl
  have hshares : twinTargets.filterMap (twinSettings.share twins "d/a/b.cs") =
      [[⟨1, "x \"하\""⟩], [⟨1, "y \"가\""⟩]] := by cbv
  have h := (SweepState.scanBy_shuffles hopen select_twins).2.2
    (twinSettings.exhausts_append twins _ 2) hok
  rw [← hshares]
  exact h.2.2.1 "d/a/b.cs"

end HangulLint
