import HangulLint.Program
import HangulLint.Proofs.Interleaving
import HangulLint.Proofs.ReportFile
import HangulLint.Proofs.StandardRule
import Mathlib

/-!
# The codes that a run ends with

A run is meant to end with code 2 exactly if the pattern is none or the root is no directory, and
then to print nothing and change nothing; and with code 0 in every other case, whatever happens to
single files, with all findings in the report and its path printed. Five kinds of trouble are not
provided for, and end the run without a code: a pattern that is refused for another reason than its
form, such as a count or a depth that is too much; a root, a directory or a file about which the
system refuses to answer because its path is too long; a directory that lies too deep for the
program; a default root that leads in a circle; and a finding in a file whose name holds stray
bytes, which the report cannot express. The contract holds exactly where none of them occurs
(`Launch.contract_iff`).

* `Options.Contract` — what is meant;
* `Options.Provided` — where nothing occurs that is not provided for;
* `Options.runBy_of_swept` — a run that gets as far as its report;
* `Options.contract_of_provided`, `Options.provided_of_contract` — the two halves.
-/

namespace HangulLint

/-- No guesser is interrupted by the user. -/
def Conditions.Undisturbed (conditions : Conditions) : Prop :=
  ∀ path bytes, conditions.guesser path bytes ≠ .interrupted

namespace Options

/-- The report can be put where it is to go: the file can be made there. -/
def AcceptsReport (options : Options) (launch : Launch) : Prop :=
  ∀ directory journal, options.reportPlan.directory launch.conditions.site =
      .ok (directory, journal) →
    ∃ emptied, launch.conditions.site.write (directory.child (Report.nameAt launch.now)) [] =
      .ok emptied

/-- **The contract.** -/
structure Contract (options : Options) (launch : Launch) (run : Run) : Prop where
  /-- The run ends with a code. -/
  returns : run.outcome = .ok 0 ∨ run.outcome = .ok 2
  /-- The code is 2 if the pattern is none or the root is no directory, and only then. -/
  refused_iff : run.outcome = .ok 2 ↔
    (∃ fault, Pattern.parse launch.host options.pattern = .error fault) ∨
      ∃ root, options.root launch = .ok root ∧ launch.conditions.site.isDir root ≠ .ok true
  /-- Nothing is printed then, and nothing changes. -/
  refused : run.outcome = .ok 2 → run.stdout = [] ∧ run.site = launch.conditions.site
  /-- Otherwise the path of the report is printed, and every finding is in the report. -/
  reported : run.outcome = .ok 0 → ∃ directory journal text bytes,
    options.reportPlan.directory launch.conditions.site = .ok (directory, journal) ∧
    run.stdout = (directory.child (Report.nameAt launch.now)).text ++ "\n" ∧
    run.site.read (directory.child (Report.nameAt launch.now)) = .ok bytes ∧
    Utf8.encodeText text = .ok bytes ∧
    ∀ root target selection, options.root launch = .ok root →
      Pattern.parse launch.host options.pattern = .ok target →
      (options.scope root).select launch.conditions.site launch.conditions.size = .ok selection →
      ∀ key path content, (key, path) ∈ selection.targets →
        readSource launch.conditions.site launch.conditions.library
            (launch.conditions.guesser path) path = .ok content →
        ∀ finding ∈ findingsIn (options.rule target) content, Report.line key finding <:+: text

/-- **Where nothing occurs that is not provided for.** -/
inductive Provided (options : Options) (launch : Launch) : Prop where
  /-- The pattern is none. -/
  | malformed {complaint : Pattern.Complaint} {position : Option Nat}
      (hpattern : Pattern.parse launch.host options.pattern =
        .error (.malformed complaint position))
  /-- The root is no directory. -/
  | missing {target : Pattern.Node} {root : Path}
      (hpattern : Pattern.parse launch.host options.pattern = .ok target)
      (hroot : options.root launch = .ok root)
      (hdir : launch.conditions.site.isDir root = .ok false)
  /-- The system answers whatever it is asked, and no finding is in a file whose name holds stray
  bytes. -/
  | swept {target : Pattern.Node} {root directory : Path} {selection : Scope.Selection}
      {journal : List (Record FileFault)}
      (hpattern : Pattern.parse launch.host options.pattern = .ok target)
      (hroot : options.root launch = .ok root)
      (hdir : launch.conditions.site.isDir root = .ok true)
      (hselect : (options.scope root).select launch.conditions.site launch.conditions.size =
        .ok selection)
      (hdirectory : options.reportPlan.directory launch.conditions.site =
        .ok (directory, journal))
      (hclean : ∀ key path content, (key, path) ∈ selection.targets →
        readSource launch.conditions.site launch.conditions.library
            (launch.conditions.guesser path) path = .ok content →
        findingsIn (options.rule target) content ≠ [] → ∀ b, Glyph.stray b ∉ key)

/-! ### A run that gets as far as its report -/

variable {options : Options} {launch : Launch} {schedule : Schedule} {root : Path}
  {target : Pattern.Node} {selection : Scope.Selection}

/-- The sweep of a run. -/
def sweep (options : Options) (launch : Launch) (schedule : Schedule) (root : Path)
    (target : Pattern.Node) : Sweep :=
  SweepState.fresh.scanBy (options.settings root target) launch.conditions
    (schedule (options.settings root target).workers)

/-- A sweep that nobody interrupts comes to its end. -/
theorem sweep_ok (target : Pattern.Node) (hthorough : schedule.Thorough)
    (hundisturbed : launch.conditions.Undisturbed)
    (hdir : launch.conditions.site.isDir root = .ok true)
    (hselect : (options.scope root).select launch.conditions.site launch.conditions.size =
      .ok selection) :
    (options.sweep launch schedule root target).outcome = .ok () ∧
      (options.sweep launch schedule root target).state.register.findings.Orderly ∧
      ∀ key, Shuffle (selection.targets.filterMap
          ((options.settings root target).share launch.conditions key))
        ((options.sweep launch schedule root target).state.register.findings.under key) := by
  have hopen : SweepState.fresh.register.sealed = false := rfl
  have hok : (options.sweep launch schedule root target).outcome = .ok () := by
    refine SweepState.outcome_of_uninterrupted hopen hdir hselect (hthorough.uninterrupted _ _)
      fun job hjob => ?_
    -- only a guesser could interrupt an inspection
    obtain ⟨⟨key, path⟩, -, rfl⟩ := List.mem_map.1 hjob
    exact inspect_ne_interrupted (hundisturbed path)
  have hregister := SweepState.register_of_scanBy hopen hselect
    ((options.settings root target).exhausts_of_thorough launch.conditions hthorough _) hok
  exact ⟨hok, hregister.2⟩

/-- The stray bytes in a report are those in the keys of files with findings. -/
theorem stray_notMem_render {conditions : Conditions} {settings : Settings} {findings : Findings}
    (horderly : findings.Orderly)
    (hshuffle : ∀ key, Shuffle (selection.targets.filterMap (settings.share conditions key))
      (findings.under key)) (arranged : Bool) :
    (∀ b, Glyph.stray b ∉ Report.render arranged findings) ↔
      ∀ key path content, (key, path) ∈ selection.targets →
        readSource conditions.site conditions.library (conditions.guesser path) path = .ok content →
        findingsIn settings.rule content ≠ [] → ∀ b, Glyph.stray b ∉ key := by
  constructor
  · -- a finding puts its key into the report, with whatever the key holds
    intro hclean key path content htarget hread hne b hb
    obtain ⟨finding, hfinding⟩ := List.exists_mem_of_ne_nil _ hne
    refine hclean b ((Report.mem_render horderly).2 ⟨key, finding, ?_, ?_⟩)
    · exact (Settings.exists_target hshuffle).2 ⟨path, content, htarget, hread, hfinding⟩
    · exact Report.stray_mem_line.2 (.inl hb)
  · intro hclean b hb
    obtain ⟨key, finding, hfinding, hb⟩ := (Report.mem_render horderly).1 hb
    obtain ⟨path, content, htarget, hread, hmem⟩ := (Settings.exists_target hshuffle).1 hfinding
    rcases Report.stray_mem_line.1 hb with hkey | htext
    · exact hclean key path content htarget hread (List.ne_nil_of_mem hmem) b hkey
    · -- reported texts are lines of characters
      obtain ⟨line, number, text, -, -, rfl⟩ := mem_findingsFrom.1 hmem
      simp [Text.ofChars] at htext

/-- A run whose sweep comes to its end makes its report. -/
theorem sweepRoot_eq (hok : (options.sweep launch schedule root target).outcome = .ok ()) :
    options.sweepRoot launch schedule root target =
      options.reportOn launch (options.sweep launch schedule root target) := by
  have hok' : (SweepState.fresh.scanBy (options.settings root target) launch.conditions
      (schedule (options.settings root target).workers)).outcome = .ok () := hok
  rw [sweepRoot]
  simp only [hok']
  rfl

theorem runBy_eq (hpattern : Pattern.parse launch.host options.pattern = .ok target)
    (hroot : options.root launch = .ok root)
    (hok : (options.sweep launch schedule root target).outcome = .ok ()) :
    options.runBy launch schedule =
      options.reportOn launch (options.sweep launch schedule root target) := by
  rw [runBy]
  simp only [hpattern, hroot]
  exact sweepRoot_eq hok

/-- A run whose report can be made, of a text with a UTF-8 form, ends with code 0. -/
theorem runBy_of_swept (hpattern : Pattern.parse launch.host options.pattern = .ok target)
    (hroot : options.root launch = .ok root)
    (hok : (options.sweep launch schedule root target).outcome = .ok ()) {directory : Path}
    {journal : List (Record FileFault)} {emptied : Site} {bytes : List UInt8}
    (hdirectory : options.reportPlan.directory launch.conditions.site = .ok (directory, journal))
    (hemptied : launch.conditions.site.write (directory.child (Report.nameAt launch.now)) [] =
      .ok emptied)
    (hbytes : Utf8.encodeText (Report.render options.reportPlan.arranged
      (options.sweep launch schedule root target).state.register.findings) = .ok bytes) :
    (options.runBy launch schedule).outcome = .ok 0 ∧
      (options.runBy launch schedule).stdout =
        (directory.child (Report.nameAt launch.now)).text ++ "\n" ∧
      (options.runBy launch schedule).site.read (directory.child (Report.nameAt launch.now)) =
        .ok bytes := by
  obtain ⟨houtcome, hread⟩ := ReportPlan.write_ok hdirectory hemptied hbytes
  rw [runBy_eq hpattern hroot hok, reportOn]
  simp only [houtcome, true_and]
  exact hread

/-- A run whose pattern is refused for another reason than its form ends without a code. -/
theorem runBy_of_uncaught {fault : Pattern.Fault}
    (hpattern : Pattern.parse launch.host options.pattern = .error fault)
    (huncaught : ∀ complaint position, fault ≠ .malformed complaint position) :
    (options.runBy launch schedule).outcome = .error (.pattern options.pattern fault) := by
  rw [runBy]
  cases fault with
  | malformed complaint position => exact absurd rfl (huncaught complaint position)
  | _ => simp only [hpattern]

/-- A run with something in the way of its selection ends without a code. -/
theorem runBy_of_refused (hpattern : Pattern.parse launch.host options.pattern = .ok target)
    (hroot : options.root launch = .ok root)
    (hdir : launch.conditions.site.isDir root = .ok true) {obstacle : Scope.Obstacle}
    (hselect : (options.scope root).select launch.conditions.site launch.conditions.size =
      .error obstacle) :
    (options.runBy launch schedule).outcome = .error (.sweep (.hindered obstacle)) := by
  have hscope : (options.settings root target).scope = options.scope root := rfl
  have hscopeRoot : (options.scope root).root = root := rfl
  rw [runBy]
  simp only [hpattern, hroot, sweepRoot, SweepState.scanBy, hscope, hscopeRoot, hdir, hselect]

/-! ### Where the contract holds -/

theorem contract_of_malformed {complaint : Pattern.Complaint} {position : Option Nat}
    (hpattern : Pattern.parse launch.host options.pattern =
      .error (.malformed complaint position)) :
    options.Contract launch (options.runBy launch schedule) := by
  have hrun : (options.runBy launch schedule).outcome = .ok 2 ∧
      (options.runBy launch schedule).stdout = [] ∧
      (options.runBy launch schedule).site = launch.conditions.site := by
    rw [runBy]
    simp only [hpattern, and_self]
  exact {
    returns := .inr hrun.1
    refused_iff := ⟨fun _ => .inl ⟨_, hpattern⟩, fun _ => hrun.1⟩
    refused := fun _ => hrun.2
    reported := fun h => absurd (hrun.1.symm.trans h) (by simp) }

theorem contract_of_missing
    (hpattern : Pattern.parse launch.host options.pattern = .ok target)
    (hroot : options.root launch = .ok root)
    (hdir : launch.conditions.site.isDir root = .ok false) :
    options.Contract launch (options.runBy launch schedule) := by
  have hscope : (options.settings root target).scope.root = root := rfl
  have hrun : (options.runBy launch schedule).outcome = .ok 2 ∧
      (options.runBy launch schedule).stdout = [] ∧
      (options.runBy launch schedule).site = launch.conditions.site := by
    rw [runBy]
    simp only [hpattern, hroot, sweepRoot, SweepState.scanBy, hscope, hdir, and_self]
  exact {
    returns := .inr hrun.1
    refused_iff := ⟨fun _ => .inr ⟨root, hroot, by simp [hdir]⟩, fun _ => hrun.1⟩
    refused := fun _ => hrun.2
    reported := fun h => absurd (hrun.1.symm.trans h) (by simp) }

theorem contract_of_swept (hthorough : schedule.Thorough)
    (hundisturbed : launch.conditions.Undisturbed) (haccepts : options.AcceptsReport launch)
    (hpattern : Pattern.parse launch.host options.pattern = .ok target)
    (hroot : options.root launch = .ok root)
    (hdir : launch.conditions.site.isDir root = .ok true)
    (hselect : (options.scope root).select launch.conditions.site launch.conditions.size =
      .ok selection)
    {directory : Path} {journal : List (Record FileFault)}
    (hdirectory : options.reportPlan.directory launch.conditions.site = .ok (directory, journal))
    (hclean : ∀ key path content, (key, path) ∈ selection.targets →
      readSource launch.conditions.site launch.conditions.library
          (launch.conditions.guesser path) path = .ok content →
      findingsIn (options.rule target) content ≠ [] → ∀ b, Glyph.stray b ∉ key) :
    options.Contract launch (options.runBy launch schedule) := by
  obtain ⟨hok, horderly, hshuffle⟩ := sweep_ok target hthorough hundisturbed hdir hselect
  -- the file can be made, and the text has a form in bytes
  obtain ⟨emptied, hemptied⟩ := haccepts directory journal hdirectory
  obtain ⟨bytes, hbytes⟩ := Utf8.encodeText_eq_ok.2
    ((stray_notMem_render horderly hshuffle options.reportPlan.arranged).2 hclean)
  have hrun := runBy_of_swept hpattern hroot hok hdirectory hemptied hbytes
  exact {
    returns := .inl hrun.1
    refused_iff := by
      rw [hrun.1]
      refine iff_of_false (by simp) ?_
      rintro (⟨fault, hfault⟩ | ⟨root', hroot', hdir'⟩)
      · exact absurd (hpattern.symm.trans hfault) (by simp)
      · obtain rfl : root = root' := Except.ok.inj (hroot.symm.trans hroot')
        exact hdir' hdir
    refused := fun h => absurd (hrun.1.symm.trans h) (by simp)
    reported := by
      refine fun _ => ⟨directory, journal, _, bytes, hdirectory, hrun.2.1, hrun.2.2, hbytes, ?_⟩
      intro root' target' selection' hroot' hpattern' hselect' key path content htarget hcontent
        finding hfinding
      obtain rfl : root = root' := Except.ok.inj (hroot.symm.trans hroot')
      obtain rfl : target = target' := Except.ok.inj (hpattern.symm.trans hpattern')
      obtain rfl : selection = selection' := Except.ok.inj (hselect.symm.trans hselect')
      exact Report.line_infix_render horderly
        ((Settings.exists_target hshuffle).2 ⟨path, content, htarget, hcontent, hfinding⟩) }

theorem contract_of_provided (hthorough : schedule.Thorough)
    (hundisturbed : launch.conditions.Undisturbed) (haccepts : options.AcceptsReport launch)
    (h : options.Provided launch) : options.Contract launch (options.runBy launch schedule) := by
  cases h with
  | malformed hpattern => exact contract_of_malformed hpattern
  | missing hpattern hroot hdir => exact contract_of_missing hpattern hroot hdir
  | swept hpattern hroot hdir hselect hdirectory hclean =>
    exact contract_of_swept hthorough hundisturbed haccepts hpattern hroot hdir hselect hdirectory
      hclean

/-! ### Where it does not -/

theorem Contract.outcome_ne_error {run : Run} (h : options.Contract launch run) (fault : RunFault) :
    run.outcome ≠ .error fault := by
  intro hfault
  rcases h.returns with h | h <;> exact absurd (hfault.symm.trans h) (by simp)

/-- A run that ends with a code gets to its report, if the root is a directory. -/
theorem swept_of_contract (hthorough : schedule.Thorough)
    (hundisturbed : launch.conditions.Undisturbed) (haccepts : options.AcceptsReport launch)
    (hpattern : Pattern.parse launch.host options.pattern = .ok target)
    (hroot : options.root launch = .ok root)
    (hdir : launch.conditions.site.isDir root = .ok true)
    (h : options.Contract launch (options.runBy launch schedule)) : options.Provided launch := by
  cases hselect : (options.scope root).select launch.conditions.site launch.conditions.size with
  | error obstacle =>
    -- the system has refused to answer, or a directory was too deep
    exact absurd (runBy_of_refused hpattern hroot hdir hselect)
      (h.outcome_ne_error (.sweep (.hindered obstacle)))
  | ok selection =>
    obtain ⟨hok, horderly, hshuffle⟩ := sweep_ok target hthorough hundisturbed hdir hselect
    have hrun := runBy_eq hpattern hroot hok
    cases hdirectory : options.reportPlan.directory launch.conditions.site with
    | error error =>
      -- nor can the report go where the system refuses to answer
      refine absurd ?_ (h.outcome_ne_error (.report (.directory error)))
      rw [hrun, reportOn]
      simp only [ReportPlan.write_undirected hdirectory]
    | ok found =>
      obtain ⟨directory, journal⟩ := found
      refine .swept hpattern hroot hdir hselect hdirectory
        ((stray_notMem_render horderly hshuffle options.reportPlan.arranged).1
          (Utf8.encodeText_eq_ok.1 ?_))
      -- a text without a form in bytes leaves the report empty, and the run without a code
      obtain ⟨emptied, hemptied⟩ := haccepts directory journal hdirectory
      cases hbytes : Utf8.encodeText (Report.render options.reportPlan.arranged
          (options.sweep launch schedule root target).state.register.findings) with
      | ok bytes => exact ⟨bytes, rfl⟩
      | error fault =>
        refine absurd ?_ (h.outcome_ne_error (.report (.text fault)))
        rw [hrun, reportOn]
        simp only [ReportPlan.write_error hdirectory hemptied hbytes]

theorem provided_of_contract (hthorough : schedule.Thorough)
    (hundisturbed : launch.conditions.Undisturbed) (haccepts : options.AcceptsReport launch)
    (h : options.Contract launch (options.runBy launch schedule)) : options.Provided launch := by
  cases hpattern : Pattern.parse launch.host options.pattern with
  | error fault =>
    -- a pattern is meant to be refused for its form alone
    by_cases hform : ∃ complaint position, fault = .malformed complaint position
    · obtain ⟨complaint, position, rfl⟩ := hform
      exact .malformed hpattern
    · have huncaught : ∀ complaint position, fault ≠ .malformed complaint position :=
        fun complaint position heq => hform ⟨complaint, position, heq⟩
      exact absurd (runBy_of_uncaught hpattern huncaught) (h.outcome_ne_error _)
  | ok target =>
    cases hroot : options.root launch with
    | error fault =>
      refine absurd ?_ (h.outcome_ne_error (.root fault))
      rw [runBy]
      simp only [hpattern, hroot]
    | ok root =>
      have hscopeRoot : (options.settings root target).scope.root = root := rfl
      cases hdir : launch.conditions.site.isDir root with
      | error error =>
        refine absurd ?_ (h.outcome_ne_error (.sweep (.hindered (.os error))))
        rw [runBy]
        simp only [hpattern, hroot, sweepRoot, SweepState.scanBy, hscopeRoot, hdir]
      | ok isDirectory =>
        cases isDirectory with
        | false => exact .missing hpattern hroot hdir
        | true =>
          exact swept_of_contract hthorough hundisturbed haccepts hpattern hroot hdir h

end Options

/-- **When a run keeps the contract.** Under a command line that can be read, with a schedule that
does all there is to do, with guessers that are not interrupted, and with a place where the report
can be made, a run keeps the contract exactly if nothing occurs that is not provided for. -/
theorem Launch.contract_iff {launch : Launch} {schedule : Schedule} {arguments : List Text}
    {options : Options} (hparse : Options.parse arguments = .ok options)
    (hthorough : schedule.Thorough) (hundisturbed : launch.conditions.Undisturbed)
    (haccepts : options.AcceptsReport launch) :
    options.Contract launch (launch.runBy schedule arguments) ↔ options.Provided launch := by
  have hrun : launch.runBy schedule arguments = options.runBy launch schedule := by
    rw [Launch.runBy]
    simp only [hparse]
  rw [hrun]
  exact ⟨Options.provided_of_contract hthorough hundisturbed haccepts,
    Options.contract_of_provided hthorough hundisturbed haccepts⟩

/-! ### A run that keeps the contract, and one that does not -/

/-- A run over the tree with two files that share a key. -/
def twinLaunch : Launch where
  conditions := twins
  host := .plain
  program := none
  now := { year := 2025, month := 1, day := 2, hour := 3, minute := 4, second := 5 }

/-- What the command line `d` says. -/
def twinOptions : Options := { Options.standard with path := some ⟨.here, ["d"]⟩ }

theorem undisturbed_twins : twinLaunch.conditions.Undisturbed := by
  intro path bytes
  simp [twinLaunch, twins]

/-- The report can be made in the root directory, where the program runs. -/
theorem acceptsReport_twins {options : Options} (hout : options.out = none) :
    options.AcceptsReport twinLaunch := by
  intro directory journal hdirectory
  have hplan : options.reportPlan.directory twinLaunch.conditions.site =
      .ok (⟨.root, []⟩, []) := by
    rw [ReportPlan.directory, Options.reportPlan, hout]
    rfl
  obtain ⟨rfl, -⟩ := Prod.mk.inj (Except.ok.inj (hplan.symm.trans hdirectory))
  have hland : twinLaunch.conditions.site.land
      ((⟨.root, []⟩ : Path).child (Report.nameAt twinLaunch.now)) =
        .ok (.vacant ["HangulDetector_2025-01-02_030405.txt"]) := by cbv
  exact Site.exists_write_of_vacant (by decide) hland (by decide)

theorem contract_twins :
    twinOptions.Contract twinLaunch (twinLaunch.runBy inOrder ["d"]) := by
  have hparse : Options.parse ["d"] = .ok twinOptions := by cbv
  have hpattern : Pattern.parse twinLaunch.host twinOptions.pattern = .ok Rule.standardTarget :=
    Rule.parse_standardPattern _
  have hroot : twinOptions.root twinLaunch = .ok ⟨.here, ["d"]⟩ := rfl
  have hdir : twinLaunch.conditions.site.isDir ⟨.here, ["d"]⟩ = .ok true := by cbv
  have hselect : (twinOptions.scope ⟨.here, ["d"]⟩).select twinLaunch.conditions.site
      twinLaunch.conditions.size = .ok ⟨twinTargets, []⟩ := by cbv
  have hdirectory : twinOptions.reportPlan.directory twinLaunch.conditions.site =
      .ok (⟨.root, []⟩, []) := rfl
  refine (Launch.contract_iff hparse thorough_inOrder undisturbed_twins
    (acceptsReport_twins rfl)).2 (.swept hpattern hroot hdir hselect hdirectory ?_)
  intro key path content htarget _ _ b
  have hkey : key = "d/a/b.cs" := by
    rcases List.mem_pair.1 htarget with h | h <;> exact (Prod.mk.inj h).1
  rw [hkey]
  exact Report.stray_notMem_ofString _ b

/-- A command line with a pattern that repeats too often. -/
def repeatArguments : List Text := ["d", "--pattern", "a\x7b99999999999\x7d"]

/-- What this command line says. -/
def repeatOptions : Options := { twinOptions with pattern := "a\x7b99999999999\x7d" }

/-- The contract is not kept where a pattern repeats too often. -/
theorem not_contract_repeats :
    Options.parse repeatArguments = .ok repeatOptions ∧
      repeatOptions.AcceptsReport twinLaunch ∧ twinLaunch.conditions.Undisturbed ∧
      ¬ repeatOptions.Contract twinLaunch (twinLaunch.runBy inOrder repeatArguments) := by
  refine ⟨by cbv, acceptsReport_twins rfl, undisturbed_twins, fun h => ?_⟩
  have houtcome : (twinLaunch.runBy inOrder repeatArguments).outcome =
      .error (.pattern "a\x7b99999999999\x7d" .tooManyRepeats) := by cbv
  exact h.outcome_ne_error _ houtcome

end HangulLint
