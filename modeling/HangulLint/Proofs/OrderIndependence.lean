import HangulLint.Proofs.Arrangement
import HangulLint.Proofs.OneByOne
import HangulLint.Proofs.Reordering
import Mathlib

/-!
# When the order of events shows

A report and the messages about failed files are meant to be the same whatever order the system
lists directories in and however the workers get along. Under each key the same findings arrive in
every case, so that only their order can differ; the report sorts them by line, and the order on one
line is the order of arrival. Two files can share a key, since a backslash in a name counts as a
slash there. If such files have different findings on one line, the order of arrival shows, and if
such files fail for different reasons, the last message stays.

Apart from this nothing shows (`Settings.orderFree_iff`): the law holds exactly where no two files
with one key have different findings on one line, or different messages.

* `Settings.Completes` — what a sweep can leave behind, in every order of events;
* `Settings.OrderFree`, `Settings.Ambiguous` — the law, and its only exception;
* `Settings.Completes.summary` — what all orders have in common;
* `Settings.orderFree_of_not_ambiguous`, `Settings.not_orderFree_of_ambiguous` — the two halves.
-/

namespace HangulLint

/-- Two files with one key whose findings, or messages, do not get along: there are different
findings on one line, or different messages. -/
def Job.Clashes (a b : Job) : Prop :=
  a.key = b.key ∧
    ((∃ found found', a.outcome = .ok found ∧ b.outcome = .ok found' ∧
        ∃ x ∈ found, ∃ y ∈ found', x.line = y.line ∧ x ≠ y) ∨
      ∃ message message', a.complaint? = some message ∧ b.complaint? = some message' ∧
        message ≠ message')

namespace Settings

/-- What a sweep can leave when it comes to its end, in whatever order the tree is listed and
whatever the workers do. -/
def Completes (settings : Settings) (conditions : Conditions) (sweep : Sweep) : Prop :=
  ∃ site state schedule, conditions.site.Reordered site ∧ state.register.sealed = false ∧
    settings.Exhausts { conditions with site := site } schedule ∧
    sweep = SweepState.scanBy state settings { conditions with site := site } schedule ∧
    sweep.outcome = .ok ()

/-- **The law.** All sweeps that come to their end give the same report and the same messages. -/
def OrderFree (settings : Settings) (conditions : Conditions) : Prop :=
  ∀ sweep sweep', settings.Completes conditions sweep → settings.Completes conditions sweep' →
    Report.render true sweep.state.register.findings =
        Report.render true sweep'.state.register.findings ∧
      ∀ key, sweep.state.failures.lookup key = sweep'.state.failures.lookup key

/-- **The exception.** Nothing interrupts the sweep, and two of the files that it selects clash. -/
def Ambiguous (settings : Settings) (conditions : Conditions) : Prop :=
  ∃ selection, conditions.site.isDir settings.scope.root = .ok true ∧
    settings.scope.select conditions.site conditions.size = .ok selection ∧
    (∀ job ∈ settings.jobs conditions selection, job.outcome ≠ .error .interrupted) ∧
    ∃ a ∈ settings.jobs conditions selection, ∃ b ∈ settings.jobs conditions selection, a.Clashes b

/-! ### What all orders have in common -/

variable {settings : Settings} {conditions : Conditions} {sweep sweep' : Sweep}
  {selection : Scope.Selection}

/-- What a sweep that has come to its end tells about the files. -/
structure Summary (jobs : List Job) (state : SweepState) : Prop where
  orderly : state.register.findings.Orderly
  /-- Under each key are the findings of the files with that key. -/
  under : ∀ key, (state.register.findings.under key).Perm (jobs.filterMap (Job.share key)).flatten
  /-- No file has interrupted the sweep. -/
  running : ∀ job ∈ jobs, job.outcome ≠ .error .interrupted
  /-- A message is that of a file with its key. -/
  source : ∀ key message, state.failures.lookup key = some message →
    ∃ job ∈ jobs, job.key = key ∧ job.complaint? = some message
  /-- Where there is no message, no file with the key has failed. -/
  silent : ∀ key, state.failures.lookup key = none →
    ∀ job ∈ jobs, job.key = key → job.complaint? = none

theorem Summary.of_perm {jobs jobs' : List Job} {state : SweepState} (h : Summary jobs' state)
    (hperm : jobs'.Perm jobs) : Summary jobs state where
  orderly := h.orderly
  under := fun key => (h.under key).trans (hperm.filterMap _).flatten
  running := fun job hjob => h.running job (hperm.mem_iff.2 hjob)
  source := by
    intro key message hlookup
    obtain ⟨job, hjob, hmessage⟩ := h.source key message hlookup
    exact ⟨job, hperm.mem_iff.1 hjob, hmessage⟩
  silent := fun key hlookup job hjob => h.silent key hlookup job (hperm.mem_iff.2 hjob)

/-- Sweeps of the same files find the same under each key, in whatever order. -/
theorem Summary.under_perm {jobs : List Job} {state state' : SweepState} (h : Summary jobs state)
    (h' : Summary jobs state') (key : Text) :
    (state.register.findings.under key).Perm (state'.register.findings.under key) :=
  (h.under key).trans (h'.under key).symm

theorem summary_of_course {moves : List Move}
    (hsettled : (settings.course conditions selection moves).Settled)
    (hrunning : (settings.course conditions selection moves).interrupted = false) :
    Summary (settings.jobs conditions selection)
      ⟨(settings.course conditions selection moves).register.close,
        (settings.course conditions selection moves).failures⟩ := by
  have hsound := settings.course_sound conditions selection moves
  have hcollected := Course.collected_of_settled hsettled hrunning
  have hmisses := Course.lookup_failures (.run _ settings.verbose moves) hsound hcollected hrunning
  refine ⟨hsound.orderly, fun key => ?_, fun job hjob => ?_, fun key => (hmisses key).1,
    fun key => (hmisses key).2⟩
  · exact (Course.shuffle_of_collected (.run _ settings.verbose moves) hcollected key).perm
  · -- an interrupted inspection that was noticed would have interrupted the sweep
    rw [← hsound.jobs_eq] at hjob
    obtain ⟨entry, hentry, rfl⟩ := List.mem_map.1 hjob
    intro hbroken
    exact absurd (hsound.broken entry hentry (hcollected entry hentry) hbroken) (by simp [hrunning])

/-- **What all orders have in common.** -/
theorem Completes.summary (h : settings.Completes conditions sweep) :
    ∃ selection, conditions.site.isDir settings.scope.root = .ok true ∧
      settings.scope.select conditions.site conditions.size = .ok selection ∧
      Summary (settings.jobs conditions selection) sweep.state := by
  obtain ⟨site, state, schedule, hreordered, hopen, hexhausts, rfl, hok⟩ := h
  obtain ⟨selection', hselect', hroot', hrunning, hstate⟩ := SweepState.scanBy_ok hopen hok
  have hroot : conditions.site.isDir settings.scope.root = .ok true :=
    (hreordered.isDir_eq _).symm.trans hroot'
  -- the sweep is over the reordered site; what it tells is told of the original one
  obtain ⟨selection, hselect⟩ := hreordered.exists_select hroot hselect'
  have hperm := hreordered.targets_perm hroot hselect hselect'
  refine ⟨selection, hroot, hselect, ?_⟩
  rw [hstate]
  exact (summary_of_course (hexhausts selection' hselect') hrunning).of_perm
    (hreordered.jobs_perm hperm)

/-! ### Nothing else shows -/

omit settings conditions sweep sweep' selection in
theorem mem_shares {jobs : List Job} {key : Text} {found : List Finding} :
    found ∈ jobs.filterMap (Job.share key) ↔
      ∃ job ∈ jobs, job.key = key ∧ job.outcome = .ok found := by
  have hshare : ∀ job : Job, job.share key = some found ↔
      job.key = key ∧ job.outcome = .ok found := by
    intro job
    unfold Job.share
    split
    · next hkey => cases job.outcome <;> simp [hkey, Except.toOption]
    · next hkey => simp [hkey]
  simp [List.mem_filterMap, hshare]

/-- Without clashes, there is one order by line. -/
theorem Summary.render_eq {jobs : List Job} {state state' : SweepState} (h : Summary jobs state)
    (h' : Summary jobs state') (hclash : ∀ a ∈ jobs, ∀ b ∈ jobs, ¬ a.Clashes b) :
    Report.render true state.register.findings = Report.render true state'.register.findings := by
  have hperm := h.under_perm h'
  have hlines : ∀ key, Report.byLine (state.register.findings.under key) =
      Report.byLine (state'.register.findings.under key) := by
    intro key
    -- two findings on one line come from two files that would clash, unless they are the same
    refine Report.byLine_congr (hperm key) fun x hx y hy hline => ?_
    rw [(h.under key).mem_iff, List.mem_flatten] at hx hy
    obtain ⟨found, hfound, hx⟩ := hx
    obtain ⟨found', hfound', hy⟩ := hy
    obtain ⟨a, ha, hkey, houtcome⟩ := mem_shares.1 hfound
    obtain ⟨b, hb, hkey', houtcome'⟩ := mem_shares.1 hfound'
    by_contra hne
    exact hclash a ha b hb
      ⟨hkey.trans hkey'.symm, .inl ⟨found, found', houtcome, houtcome', x, hx, y, hy, hline, hne⟩⟩
  rw [Report.render_eq h.orderly, Report.render_eq h'.orderly,
    Report.keys_congr h.orderly h'.orderly hperm]
  simp only [hlines]

/-- Without clashes, there is one message for each key. -/
theorem Summary.lookup_eq {jobs : List Job} {state state' : SweepState} (h : Summary jobs state)
    (h' : Summary jobs state') (hclash : ∀ a ∈ jobs, ∀ b ∈ jobs, ¬ a.Clashes b) (key : Text) :
    state.failures.lookup key = state'.failures.lookup key := by
  cases hlookup : state.failures.lookup key with
  | none =>
    cases hlookup' : state'.failures.lookup key with
    | none => rfl
    | some message' =>
      -- a file that has failed in the one sweep has failed in the other
      obtain ⟨b, hb, hkey, hcomplaint⟩ := h'.source key message' hlookup'
      exact absurd (h.silent key hlookup b hb hkey) (by simp [hcomplaint])
  | some message =>
    obtain ⟨a, ha, hkey, hcomplaint⟩ := h.source key message hlookup
    cases hlookup' : state'.failures.lookup key with
    | none => exact absurd (h'.silent key hlookup' a ha hkey) (by simp [hcomplaint])
    | some message' =>
      obtain ⟨b, hb, hkey', hcomplaint'⟩ := h'.source key message' hlookup'
      by_contra hne
      exact hclash a ha b hb ⟨hkey.trans hkey'.symm, .inr ⟨message, message', hcomplaint,
        hcomplaint', fun h => hne (congrArg _ h)⟩⟩

theorem orderFree_of_not_ambiguous (h : ¬ settings.Ambiguous conditions) :
    settings.OrderFree conditions := by
  intro sweep sweep' hsweep hsweep'
  obtain ⟨selection, hroot, hselect, hsummary⟩ := hsweep.summary
  obtain ⟨selection', -, hselect', hsummary'⟩ := hsweep'.summary
  obtain rfl : selection = selection' := Except.ok.inj (hselect.symm.trans hselect')
  have hclash : ∀ a ∈ settings.jobs conditions selection,
      ∀ b ∈ settings.jobs conditions selection, ¬ a.Clashes b := fun a ha b hb hclashes =>
    h ⟨selection, hroot, hselect, hsummary.running, a, ha, b, hb, hclashes⟩
  exact ⟨hsummary.render_eq hsummary' hclash, hsummary.lookup_eq hsummary' hclash⟩

/-! ### What shows -/

/-- The files at other places than two. -/
def apartFrom (jobs : List Job) (i j : Nat) : List (Job × Nat) :=
  jobs.zipIdx.filter fun entry => entry.2 ≠ i ∧ entry.2 ≠ j

/-- All files one after the other, two of them last. -/
def lastTwo (jobs : List Job) (i j : Nat) (first second : Job × Nat) : List (Job × Nat) :=
  apartFrom jobs i j ++ [first, second]

section LastTwo

variable {jobs : List Job} {i j : Nat} {a b : Job}

theorem mem_apartFrom {entry : Job × Nat} :
    entry ∈ apartFrom jobs i j ↔ jobs[entry.2]? = some entry.1 ∧ entry.2 ≠ i ∧ entry.2 ≠ j := by
  simp [apartFrom, List.mem_filter, List.mem_zipIdx_iff_getElem?]

theorem settled_lastTwo {course : Course} (h : Course.Sound jobs course) (verbose : Bool)
    (ha : jobs[i]? = some a) (hb : jobs[j]? = some b) {first second : Job × Nat}
    (htwo : (first = (a, i) ∧ second = (b, j)) ∨ (first = (b, j) ∧ second = (a, i))) :
    (course.run verbose (Course.oneByOne (lastTwo jobs i j first second))).Settled := by
  -- every file is among those at other places, or is one of the two
  refine h.settled_moves verbose [] _ (fun entry hentry => ?_) fun place hplace => ?_
  · rw [lastTwo, List.mem_append] at hentry
    rcases hentry with hentry | hentry
    · exact (mem_apartFrom.1 hentry).1
    · rcases htwo with ⟨rfl, rfl⟩ | ⟨rfl, rfl⟩ <;>
        rcases List.mem_pair.1 hentry with rfl | rfl <;> assumption
  · by_cases hi : place = i
    · exact ⟨a, by rcases htwo with ⟨rfl, rfl⟩ | ⟨rfl, rfl⟩ <;> simp [lastTwo, hi]⟩
    · by_cases hj : place = j
      · exact ⟨b, by rcases htwo with ⟨rfl, rfl⟩ | ⟨rfl, rfl⟩ <;> simp [lastTwo, hj]⟩
      · exact ⟨jobs[place], List.mem_append_left _
          (mem_apartFrom.2 ⟨List.getElem?_eq_getElem hplace, hi, hj⟩)⟩

/-- What two files leave that are taken last, whichever of them is the very last. -/
theorem exists_lastTwo (verbose : Bool) (ha : jobs[i]? = some a) (hb : jobs[j]? = some b)
    (hne : i ≠ j) (hfault : ∀ job ∈ jobs, job.outcome ≠ .error .interrupted) :
    ∃ before : Course, ∀ first second,
      (first = (a, i) ∧ second = (b, j)) ∨ (first = (b, j) ∧ second = (a, i)) →
      let next := (Course.start .empty jobs).run verbose
        (Course.oneByOne (lastTwo jobs i j first second))
      next.interrupted = false ∧
        (∀ key, next.register.findings.under key = before.register.findings.under key ++
          (first.1.share key).getD [] ++ (second.1.share key).getD []) ∧
        ∀ key, next.failures.lookup key =
          (if second.1.key = key then second.1.complaint? else none).or
            ((if first.1.key = key then first.1.complaint? else none).or
              (before.failures.lookup key)) := by
  have hstart : Course.Sound jobs (Course.start .empty jobs) := .start rfl .nil jobs
  have hqueued : ∀ (place : Nat) (job : Job), jobs[place]? = some job →
      (Course.start .empty jobs).jobs[place]? = some (job, .queued) := by
    intro place job hjob
    simp [Course.start, hjob]
  have hnodup : ((apartFrom jobs i j).map (·.2)).Nodup := by
    have hplaces : (jobs.zipIdx.map (·.2)).Nodup := by
      rw [List.zipIdx_map_snd]
      exact List.nodup_range'
    exact hplaces.sublist (List.filter_sublist.map _)
  -- when all others have been taken, the two still wait
  obtain ⟨hrunning, hframe⟩ := hstart.run_order verbose (apartFrom jobs i j) hnodup
    (fun entry hentry => hqueued _ _ (mem_apartFrom.1 hentry).1)
    (fun entry hentry => hfault _ (List.mem_of_getElem? (mem_apartFrom.1 hentry).1)) rfl
  have hi : i ∉ (apartFrom jobs i j).map (·.2) := by
    rintro hmem
    obtain ⟨entry, hentry, rfl⟩ := List.mem_map.1 hmem
    exact (mem_apartFrom.1 hentry).2.1 rfl
  have hj : j ∉ (apartFrom jobs i j).map (·.2) := by
    rintro hmem
    obtain ⟨entry, hentry, rfl⟩ := List.mem_map.1 hmem
    exact (mem_apartFrom.1 hentry).2.2 rfl
  have entryA := (hframe i hi).trans (hqueued i a ha)
  have entryB := (hframe j hj).trans (hqueued j b hb)
  have hfaultA := hfault a (List.mem_of_getElem? ha)
  have hfaultB := hfault b (List.mem_of_getElem? hb)
  have hsound := hstart.run verbose (Course.oneByOne (apartFrom jobs i j))
  refine ⟨(Course.start .empty jobs).run verbose (Course.oneByOne (apartFrom jobs i j)),
    fun first second htwo => ?_⟩
  rw [lastTwo, Course.oneByOne_append, Course.run_append]
  rcases htwo with ⟨rfl, rfl⟩ | ⟨rfl, rfl⟩
  · have htwo := hsound.run_two verbose entryA entryB hne hrunning hfaultA hfaultB
    rwa [← List.append_nil (b.moves j)] at htwo
  · have htwo := hsound.run_two verbose entryB entryA (Ne.symm hne) hrunning hfaultB hfaultA
    rwa [← List.append_nil (a.moves i)] at htwo

end LastTwo

/-- What is found in a file of a sweep is what is found in its text. -/
theorem exists_content {job : Job} (hjob : job ∈ settings.jobs conditions selection)
    {found : List Finding} (houtcome : job.outcome = .ok found) :
    ∃ content, found = findingsIn settings.rule content := by
  obtain ⟨⟨key, path⟩, -, rfl⟩ := List.mem_map.1 hjob
  have hinspect : inspect conditions.site conditions.library
      (conditions.guesser path) settings.rule path =
      .ok found := houtcome
  rw [inspect] at hinspect
  cases hread : readSource conditions.site conditions.library (conditions.guesser path) path with
  | error fault => simp [hread, Except.map] at hinspect
  | ok content => exact ⟨content, by simpa [hread, Except.map, eq_comm] using hinspect⟩

/-- Two sweeps that take all files one after the other, and two files last in either order. -/
theorem exists_completes (hroot : conditions.site.isDir settings.scope.root = .ok true)
    (hselect : settings.scope.select conditions.site conditions.size = .ok selection)
    (hfault : ∀ job ∈ settings.jobs conditions selection, job.outcome ≠ .error .interrupted)
    {i j : Nat} {a b : Job} (ha : (settings.jobs conditions selection)[i]? = some a)
    (hb : (settings.jobs conditions selection)[j]? = some b) (hne : i ≠ j) :
    ∃ (under : Text → List Finding) (lookup : Text → Option Text), ∀ first second,
      (first = (a, i) ∧ second = (b, j)) ∨ (first = (b, j) ∧ second = (a, i)) →
      ∃ sweep, settings.Completes conditions sweep ∧
        (∀ key, sweep.state.register.findings.under key =
          under key ++ (first.1.share key).getD [] ++ (second.1.share key).getD []) ∧
        ∀ key, sweep.state.failures.lookup key =
          (if second.1.key = key then second.1.complaint? else none).or
            ((if first.1.key = key then first.1.complaint? else none).or (lookup key)) := by
  obtain ⟨before, hbefore⟩ := exists_lastTwo settings.verbose ha hb hne hfault
  refine ⟨before.register.findings.under, fun key => before.failures.lookup key,
    fun first second htwo => ?_⟩
  obtain ⟨hrunning, hunder, hlookup⟩ := hbefore first second htwo
  -- one file is inspected after the other, with the two files at the end
  have hopen : SweepState.fresh.register.sealed = false := rfl
  let schedule : List Job → List Move := fun jobs =>
    Course.oneByOne (lastTwo jobs i j first second)
  have hscan := @SweepState.scanBy_eq .fresh settings conditions schedule hopen _ hroot hselect
  have hfinish := settings.finish_of_running hrunning
  refine ⟨SweepState.fresh.scanBy settings conditions schedule,
    ⟨conditions.site, .fresh, schedule, .refl _, hopen, ?_, rfl, hscan.1.trans hfinish.1⟩, ?_⟩
  · -- the schedule takes every file
    intro selection' hselect'
    obtain rfl : selection = selection' := Except.ok.inj (hselect.symm.trans hselect')
    exact settled_lastTwo (Course.Sound.start rfl .nil _) settings.verbose ha hb htwo
  · rw [hscan.2.trans hfinish.2]
    exact ⟨hunder, hlookup⟩

/-- A file does not clash with itself. -/
theorem not_clashes_self {job : Job} (hjob : job ∈ settings.jobs conditions selection) :
    ¬ job.Clashes job := by
  rintro ⟨-, ⟨found, found', hfound, hfound', x, hx, y, hy, hline, hne⟩ |
    ⟨message, message', hmessage, hmessage', hne⟩⟩
  · -- line numbers go up, so a line has one finding
    obtain rfl : found = found' := Except.ok.inj (hfound.symm.trans hfound')
    obtain ⟨content, rfl⟩ := exists_content hjob hfound
    have hpairwise := pairwise_findingsFrom settings.rule 1 content
    have hsame := filter_line_eq hpairwise hx
    rw [hline, filter_line_eq hpairwise hy] at hsame
    exact hne (List.singleton_inj.1 hsame).symm
  · exact hne (Option.some.inj (hmessage.symm.trans hmessage'))

theorem Summary.newline_notMem {state : SweepState}
    (h : Summary (settings.jobs conditions selection) state) (key : Text) :
    ∀ finding ∈ state.register.findings.under key, Glyph.scalar '\n' ∉ finding.text := by
  intro finding hfinding
  rw [(h.under key).mem_iff, List.mem_flatten] at hfinding
  obtain ⟨found, hfound, hmem⟩ := hfinding
  obtain ⟨job, hjob, -, houtcome⟩ := mem_shares.1 hfound
  obtain ⟨content, rfl⟩ := exists_content hjob houtcome
  exact newline_notMem_of_mem_findingsFrom hmem

/-- Different findings on one line, arriving in different orders, make different reports. -/
theorem Summary.render_ne {state state' : SweepState}
    (h : Summary (settings.jobs conditions selection) state)
    (h' : Summary (settings.jobs conditions selection) state') {key : Text}
    {before found found' : List Finding}
    (hunder : state.register.findings.under key = before ++ found ++ found')
    (hunder' : state'.register.findings.under key = before ++ found' ++ found)
    (hfound : found.Pairwise (·.line < ·.line)) (hfound' : found'.Pairwise (·.line < ·.line))
    {x y : Finding} (hx : x ∈ found) (hy : y ∈ found') (hline : x.line = y.line) (hne : x ≠ y) :
    Report.render true state.register.findings ≠
      Report.render true state'.register.findings := by
  intro hrender
  have hlines := (Report.render_eq_iff h.orderly h'.orderly (h.under_perm h')
    h.newline_notMem).1 hrender key
  -- on the line of both, sorting has left the findings as they came
  have hfilter := congrArg (List.filter (·.line = x.line)) hlines
  have hfilterY : found'.filter (·.line = x.line) = [y] := by
    rw [hline]
    exact filter_line_eq hfound' hy
  rw [Report.filter_byLine, Report.filter_byLine, hunder, hunder', List.filter_append,
    List.filter_append, List.filter_append, List.filter_append, filter_line_eq hfound hx, hfilterY,
    List.append_assoc, List.append_assoc, List.append_cancel_left_eq] at hfilter
  exact hne (List.cons.inj hfilter).1

theorem not_orderFree_of_ambiguous (h : settings.Ambiguous conditions) :
    ¬ settings.OrderFree conditions := by
  obtain ⟨selection, hroot, hselect, hfault, a, ha, b, hb, hclashes⟩ := h
  intro hfree
  obtain ⟨i, hi⟩ := List.mem_iff_getElem?.1 ha
  obtain ⟨j, hj⟩ := List.mem_iff_getElem?.1 hb
  have hplaces : i ≠ j := by
    rintro rfl
    obtain rfl : a = b := Option.some.inj (hi.symm.trans hj)
    exact not_clashes_self ha hclashes
  -- two sweeps that differ in which of the two files comes last
  obtain ⟨under, lookup, htwo⟩ := exists_completes hroot hselect hfault hi hj hplaces
  obtain ⟨sweep, hsweep, hunder, hlookup⟩ := htwo _ _ (.inl ⟨rfl, rfl⟩)
  obtain ⟨sweep', hsweep', hunder', hlookup'⟩ := htwo _ _ (.inr ⟨rfl, rfl⟩)
  obtain ⟨hrender, hmessages⟩ := hfree sweep sweep' hsweep hsweep'
  obtain ⟨hkey, ⟨found, found', hfound, hfound', x, hx, y, hy, hline, hne⟩ |
    ⟨message, message', hmessage, hmessage', hne⟩⟩ := hclashes
  · -- the findings of the two files come in different orders
    obtain ⟨selection₁, -, hselect₁, hsummary⟩ := hsweep.summary
    obtain ⟨selection₂, -, hselect₂, hsummary'⟩ := hsweep'.summary
    obtain rfl : selection = selection₁ := Except.ok.inj (hselect.symm.trans hselect₁)
    obtain rfl : selection = selection₂ := Except.ok.inj (hselect.symm.trans hselect₂)
    obtain ⟨content, rfl⟩ := exists_content ha hfound
    obtain ⟨content', rfl⟩ := exists_content hb hfound'
    have hshare : a.share b.key = some (findingsIn settings.rule content) := by
      rw [Job.share, if_pos hkey, hfound]
      rfl
    have hshare' : b.share b.key = some (findingsIn settings.rule content') := by
      rw [Job.share, if_pos rfl, hfound']
      rfl
    have h₁ := hunder b.key
    have h₂ := hunder' b.key
    simp only [hshare, hshare', Option.getD_some] at h₁ h₂
    exact hsummary.render_ne hsummary' h₁ h₂ (pairwise_findingsFrom _ 1 content)
      (pairwise_findingsFrom _ 1 content') hx hy hline hne hrender
  · -- the last message stays
    have hlast := hmessages b.key
    simp only [hlookup, hlookup', hkey, if_true, hmessage, hmessage', Option.some_or] at hlast
    exact hne (Option.some.inj hlast).symm

/-- **When the order of events shows.** The report and the messages are independent of the order
in which the system lists the tree and of what the workers do, unless two of the selected files have
one key and different findings on one line, or one key and different messages. -/
theorem orderFree_iff : settings.OrderFree conditions ↔ ¬ settings.Ambiguous conditions :=
  ⟨fun h hambiguous => not_orderFree_of_ambiguous hambiguous h, orderFree_of_not_ambiguous⟩

end Settings

/-- The order of events shows where a backslash in a name gives a file the key of another. -/
theorem not_orderFree_twins : ¬ twinSettings.OrderFree twins := by
  intro hfree
  have hopen : SweepState.fresh.register.sealed = false := rfl
  have hrefl : twins.site.Reordered twins.site := .refl _
  have hsweep : twinSettings.Completes twins
      (SweepState.fresh.scanBy twinSettings twins (inOrder 2)) :=
    ⟨_, _, _, hrefl, hopen, twinSettings.exhausts_inOrder twins 2, rfl, by cbv⟩
  have hsweep' : twinSettings.Completes twins
      (SweepState.fresh.scanBy twinSettings twins twinSchedule) :=
    ⟨_, _, _, hrefl, hopen, twinSettings.exhausts_append twins _ 2, rfl, by cbv⟩
  have hrender : Report.render true (SweepState.fresh.scanBy twinSettings twins
      (inOrder 2)).state.register.findings =
        "d/a/b.cs (1): x \"하\"\nd/a/b.cs (1): y \"가\"\n" := by cbv
  have hrender' : Report.render true (SweepState.fresh.scanBy twinSettings twins
      twinSchedule).state.register.findings =
        "d/a/b.cs (1): y \"가\"\nd/a/b.cs (1): x \"하\"\n" := by cbv
  have hsame := (hfree _ _ hsweep hsweep').1
  rw [hrender, hrender'] at hsame
  exact absurd hsame (by decide)

end HangulLint
