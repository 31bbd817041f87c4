import HangulLint.Proofs.NewFile
import HangulLint.Proofs.OwnKeys
import HangulLint.Proofs.ReportName

/-!
# A second run

The report of a run is a file more for the next, and it may lie among the files that are swept. It
is meant to make no difference: a second run with the same options, whenever it is made, ends as the
first has done, and leaves a report with the same bytes. This needs a tree without links in which no
directory is named like a report, name patterns that describe no name of a report, and files with
keys of their own. Then the second sweep selects the same files (`Scope.Ignores.exists_select`), the
same comes of each, and the report that is made of it goes to the same directory, since the new file
has changed no directory.

One thing is left to be seen to. The name of a report tells the year in as many digits as it has,
and a path that is one byte longer may be too long for the system. A second run repeats the first
exactly if the path of its report is not too long (`Options.repeats_iff_fits`). It never is where
the first run is made in a year of four digits, as every clock shows that counts from 1970
(`Options.repeats`).

* `Site.exists_write_child` — where a report can be written;
* `Options.Steady`, `Launch.Follows` — what is asked of the options and the tree, and of the launch;
* `Options.Repeats`, `Options.Fits` — what a second run is meant to do, and where it can;
* `Options.exists_reported` — what a run has gone through that ends with code 0;
* `Options.Again`, `Options.Reported.exists_again` — what the second sweep has in common with the
  first;
* `Options.Reported.repeats_of_fits`, `Options.Reported.fits_of_outcome` — the two halves;
* `Options.repeats` — a second run does what the first has done.
-/

namespace HangulLint

/-! ### Where a report can be written -/

/-- What is in the tree lies in a directory, at a place whose names files can have. -/
theorem FileTree.directory_of_child {tree : FileTree} {place : Location} {name : Text} {node : Node}
    (h : tree.node? (place ++ [name]) = some node) :
    tree.node? place = some .directory ∧ ∀ step ∈ place, isFileName step = true := by
  have hentry := (node?_eq_some (by simp)).1 h
  refine ⟨?_, fun step hstep => tree.named _ hentry step (List.mem_append_left _ hstep)⟩
  have hhoused := (tree.housed _ hentry).2
  rw [List.dropLast_concat] at hhoused
  by_cases hplace : place = []
  · simp [node?, hplace]
  · exact (node?_eq_some hplace).2 (hhoused.resolve_left hplace)

/-- Of two paths into one directory, the one with the longer name is the longer one. -/
theorem Path.length_child_le (directory : Path) {name name' : Text}
    (h : (Utf8.bytesOfName name).length ≤ (Utf8.bytesOfName name').length) :
    (Utf8.bytesOfName (directory.child name).text).length ≤
      (Utf8.bytesOfName (directory.child name').text).length := by
  obtain ⟨front, hfront⟩ := directory.exists_text_below
  have hlength : ∀ name, (Utf8.bytesOfName (directory.child name).text).length =
      (Utf8.bytesOfName front).length + (Utf8.bytesOfName name).length := by
    intro name
    rw [child, hfront [name] (by simp), Utf8.bytesOfName_append, List.length_append]
    rfl
  rw [hlength, hlength]
  omega

/-- Where a directory has room for a file, one can be written, if its path is not too long. -/
theorem Site.exists_write_child {site : Site} {directory : Path} {name : Text} {place : Location}
    (hland : site.land directory = .ok (.directory place)) (hnul : directory.hasNul = false)
    (hname : isFileName name = true)
    (hlength : ¬ pathBytesLimit ≤ (Utf8.bytesOfName (directory.child name).text).length)
    (hplace : site.tree.node? place = some .directory ∧ ∀ step ∈ place, isFileName step = true)
    (hfree : site.tree.Free (place ++ [name])) (bytes : List UInt8) :
    ∃ site', site.write (directory.child name) bytes = .ok site' := by
  obtain ⟨left, -, hrest⟩ := FileTree.walk_append (land_ok hland).2
  have hchild : site.land (directory.child name) = site.tree.walk left place [name] := by
    rw [land, if_neg hlength]
    exact hrest [name]
  obtain ⟨hstep, hparent, hshort⟩ := FileTree.isStep_of_isFileName hname
  rw [FileTree.walk_name hstep hparent hshort] at hchild
  have hnul' : (directory.child name).hasNul = false := by
    simp only [isFileName, Bool.and_eq_true, Bool.not_eq_true'] at hname
    simp only [Path.hasNul, Path.child, Path.below, List.any_append, List.any_cons, List.any_nil,
      Bool.or_false, Bool.or_eq_false_iff] at hnul ⊢
    exact ⟨hnul, hname.1.2⟩
  obtain hnone | ⟨old, hold⟩ := hfree
  · -- nothing is there, and a file can be
    rw [hnone] at hchild
    refine exists_write_of_vacant hnul' (by simpa using hchild) ⟨by simp, hnone, ?_, ?_⟩
    · rw [List.dropLast_concat]
      exact hplace.1
    · simpa [or_imp, forall_and, hname] using hplace.2
  · -- a file is there, and is replaced
    rw [hold] at hchild
    rw [write, if_neg (by simp [hnul']), hchild]
    exact ⟨_, rfl⟩

/-! ### Sweeps of which the same comes -/

namespace Settings

variable {settings : Settings} {conditions : Conditions} {selection : Scope.Selection}

/-- What a sweep tells about some files depends on their keys and on what comes of them. -/
theorem Summary.map_congr {targets : List Target} {job job' : Target → Job} {state : SweepState}
    (h : Summary (targets.map job) state) (hkey : ∀ target ∈ targets,
      (job' target).key = (job target).key)
    (houtcome : ∀ target ∈ targets, (job' target).outcome = (job target).outcome) :
    Summary (targets.map job') state := by
  have hcomplaint : ∀ target ∈ targets, (job' target).complaint? = (job target).complaint? := by
    intro target htarget
    rw [Job.complaint?, Job.complaint?, houtcome target htarget]
  exact {
    orderly := h.orderly
    under := by
      intro key
      have hshares : (targets.map job').filterMap (Job.share key) =
          (targets.map job).filterMap (Job.share key) := by
        -- what a file shares is read off its key and off what comes of it
        rw [List.filterMap_map, List.filterMap_map]
        refine List.filterMap_congr fun target htarget => ?_
        rw [Function.comp_apply, Function.comp_apply, Job.share, Job.share, hkey target htarget,
          houtcome target htarget]
      rw [hshares]
      exact h.under key
    running := by
      intro _ hmem
      obtain ⟨target, htarget, rfl⟩ := List.mem_map.1 hmem
      rw [houtcome target htarget]
      exact h.running _ (List.mem_map_of_mem htarget)
    source := by
      intro key message hlookup
      obtain ⟨_, hmem, hsource, hmessage⟩ := h.source key message hlookup
      obtain ⟨target, htarget, rfl⟩ := List.mem_map.1 hmem
      exact ⟨job' target, List.mem_map_of_mem htarget, (hkey target htarget).trans hsource,
        (hcomplaint target htarget).trans hmessage⟩
    silent := by
      intro key hlookup _ hmem hsource
      obtain ⟨target, htarget, rfl⟩ := List.mem_map.1 hmem
      rw [hcomplaint target htarget]
      exact h.silent key hlookup _ (List.mem_map_of_mem htarget)
        ((hkey target htarget).symm.trans hsource) }

section SameJobs

variable {jobs : List Job} {state state' : SweepState} (h : Summary jobs state)
  (h' : Summary jobs state')

include h h'

/-- As many findings are told, since a log is told key by key. -/
theorem Summary.count_eq : state.register.count = state'.register.count := by
  have hperm := Findings.perm_entries h.orderly.nodup h'.orderly.nodup (h.under_perm h')
  rw [Register.count, Register.count, ← Findings.length_entries, ← Findings.length_entries,
    hperm.length_eq]

theorem Summary.fileCount_eq : state.register.fileCount = state'.register.fileCount := by
  have hkeys := Report.keys_congr h.orderly h'.orderly (h.under_perm h')
  simpa [Report.keys, Register.fileCount] using congrArg List.length hkeys

end SameJobs

/-- Files with keys of their own do not clash. -/
theorem not_clashes_of_nodup (hkeys : (selection.targets.map (·.1)).Nodup) :
    ∀ a ∈ settings.jobs conditions selection, ∀ b ∈ settings.jobs conditions selection,
      ¬ a.Clashes b := by
  intro a ha b hb hclashes
  obtain ⟨target, htarget, rfl⟩ := List.mem_map.1 ha
  obtain ⟨target', htarget', rfl⟩ := List.mem_map.1 hb
  obtain rfl : target = target' :=
    List.inj_on_of_nodup_map hkeys htarget htarget' hclashes.1
  exact not_clashes_self ha hclashes

end Settings

/-! ### What is asked, and what is meant -/

/-- **What is asked of the options and the tree.** -/
structure Options.Steady (options : Options) (launch : Launch) : Prop where
  /-- Reports are sorted. -/
  sorted : options.unsorted = false
  /-- There are no links. -/
  linkless : ∀ place target, (place, Node.link target) ∉ launch.conditions.site.tree.entries
  /-- No directory is named like a report. -/
  unnamed : ∀ place now,
    (place ++ [Report.nameAt now], Node.directory) ∉ launch.conditions.site.tree.entries
  /-- No name pattern describes the name of a report. -/
  unwanted : ∀ now,
    ((Text.commaList options.globs).map Glob.parse).any (Glob.admits · (Report.nameAt now)) = false
  /-- Every file that is swept has its own key. -/
  distinct : ∀ root selection, options.root launch = .ok root →
    (options.scope root).select launch.conditions.site launch.conditions.size = .ok selection →
    (selection.targets.map (·.1)).Nodup
  /-- The system tells the sizes of files as they are. -/
  sizes : launch.conditions.size = launch.conditions.site.size

/-- **The launch after a run.** Nothing but the run has touched the tree since the first launch, the
program is called in the same way on the same system, and a guesser answers as it did. The time is
any time, files may take longer or shorter, and the system may list the tree in another order. -/
structure Launch.Follows (later launch : Launch) (site : Site) : Prop where
  reordered : site.Reordered later.conditions.site
  sizes : later.conditions.size = later.conditions.site.size
  library : later.conditions.library = launch.conditions.library
  guesser : later.conditions.guesser = launch.conditions.guesser
  host : later.host = launch.host
  program : later.program = launch.program

namespace Options

/-- **Two runs come to the same numbers.** Their sweeps look for one target below one root. -/
structure SameNumbers (options : Options) (launch later : Launch) (schedule schedule' : Schedule)
    (root : Path) (target : Pattern.Node) (selection selection' : Scope.Selection) : Prop where
  pattern : Pattern.parse launch.host options.pattern = .ok target
  rooted : options.root launch = .ok root
  rooted' : options.root later = .ok root
  selected : (options.scope root).select launch.conditions.site launch.conditions.size =
    .ok selection
  selected' : (options.scope root).select later.conditions.site later.conditions.size =
    .ok selection'
  /-- As many files are selected. -/
  files : selection'.targets.length = selection.targets.length
  /-- As many findings are made. -/
  findings : (options.sweep later schedule' root target).state.register.count =
    (options.sweep launch schedule root target).state.register.count
  /-- As many files have findings. -/
  found : (options.sweep later schedule' root target).state.register.fileCount =
    (options.sweep launch schedule root target).state.register.fileCount
  /-- As many files fail. -/
  failures : (options.sweep later schedule' root target).state.failures.length =
    (options.sweep launch schedule root target).state.failures.length

/-- **A run is repeated.** -/
structure Repeats (options : Options) (launch later : Launch) (schedule schedule' : Schedule) :
    Prop where
  /-- The second run ends with code 0 as well. -/
  returns : (options.runBy later schedule').outcome = .ok 0
  /-- Both print the path of a report in one directory, and the reports have the same bytes. -/
  report : ∃ (directory : Path) (bytes : List UInt8),
    (options.runBy launch schedule).stdout =
      (directory.child (Report.nameAt launch.now)).text ++ "\n" ∧
    (options.runBy later schedule').stdout =
      (directory.child (Report.nameAt later.now)).text ++ "\n" ∧
    (options.runBy launch schedule).site.read (directory.child (Report.nameAt launch.now)) =
      .ok bytes ∧
    (options.runBy later schedule').site.read (directory.child (Report.nameAt later.now)) =
      .ok bytes
  /-- The sweeps come to the same numbers. -/
  numbers : ∃ root target selection selection',
    options.SameNumbers launch later schedule schedule' root target selection selection'

/-- The path of the later report is not too long. -/
def Fits (options : Options) (launch later : Launch) : Prop :=
  ∀ directory journal,
    options.reportPlan.directory launch.conditions.site = .ok (directory, journal) →
    (Utf8.bytesOfName (directory.child (Report.nameAt later.now)).text).length < pathBytesLimit

end Options

/-! ### What a run has gone through -/

namespace Options

variable {options : Options} {launch later : Launch} {schedule schedule' : Schedule} {root : Path}
  {target : Pattern.Node} {directory : Path} {bytes : List UInt8}

/-- **A run that has made its report.** -/
structure Reported (options : Options) (launch : Launch) (schedule : Schedule) (root : Path)
    (target : Pattern.Node) (directory : Path) (bytes : List UInt8) : Prop where
  pattern : Pattern.parse launch.host options.pattern = .ok target
  rooted : options.root launch = .ok root
  swept : (options.sweep launch schedule root target).outcome = .ok ()
  directed : ∃ journal,
    options.reportPlan.directory launch.conditions.site = .ok (directory, journal)
  encoded : Utf8.encodeText (Report.render options.reportPlan.arranged
    (options.sweep launch schedule root target).state.register.findings) = .ok bytes
  written : ∃ emptied,
    launch.conditions.site.write (directory.child (Report.nameAt launch.now)) [] = .ok emptied ∧
    emptied.write (directory.child (Report.nameAt launch.now)) bytes =
      .ok (options.runBy launch schedule).site

/-- What ends with code 0 has made a report. -/
theorem exists_reported (h : (options.runBy launch schedule).outcome = .ok 0) :
    ∃ root target directory bytes,
      options.Reported launch schedule root target directory bytes := by
  cases hpattern : Pattern.parse launch.host options.pattern with
  | error fault =>
    rw [runBy] at h
    cases fault <;> simp [hpattern] at h
  | ok target =>
    cases hroot : options.root launch with
    | error fault =>
      rw [runBy] at h
      simp [hpattern, hroot] at h
    | ok root =>
      cases hok : (options.sweep launch schedule root target).outcome with
      | error fault =>
        -- the root is no directory, which makes for code 2, or there is no code
        rw [sweep] at hok
        rw [runBy] at h
        simp only [hpattern, hroot, sweepRoot, hok] at h
        cases fault <;> simp at h
      | ok _ =>
        have hrun := runBy_eq hpattern hroot hok
        rw [hrun, reportOn] at h
        cases hwriting : (options.reportPlan.write launch.conditions.site launch.now
            (options.sweep launch schedule root target).state.register.findings).outcome with
        | error fault => simp [hwriting] at h
        | ok path =>
          obtain ⟨directory, journal, emptied, bytes, hdirectory, hemptied, hbytes, hfilled⟩ :=
            ReportPlan.of_write_ok hwriting
          refine ⟨root, target, directory, bytes, hpattern, hroot, hok, ⟨journal, hdirectory⟩,
            hbytes, emptied, hemptied, ?_⟩
          rw [hfilled, hrun, reportOn]
          simp only [hwriting]

/-- What the sweep of a run that has come to its end tells about the files. -/
theorem summary_of_swept (hthorough : schedule.Thorough)
    (hok : (options.sweep launch schedule root target).outcome = .ok ()) :
    ∃ selection, launch.conditions.site.isDir root = .ok true ∧
      (options.scope root).select launch.conditions.site launch.conditions.size = .ok selection ∧
      Settings.Summary ((options.settings root target).jobs launch.conditions selection)
        (options.sweep launch schedule root target).state ∧
      ((options.sweep launch schedule root target).state.failures.map (·.1)).Nodup := by
  obtain ⟨selection, hselect, hdir, hrunning, hstate⟩ := SweepState.scanBy_ok rfl hok
  have hsettled := (options.settings root target).exhausts_of_thorough launch.conditions hthorough
    (options.settings root target).workers selection hselect
  refine ⟨selection, hdir, hselect, ?_, ?_⟩
  · rw [sweep, hstate]
    exact Settings.summary_of_course hsettled hrunning
  · rw [sweep, hstate]
    exact Course.nodup_failures _ _

/-! ### The second run -/

/-- **A second sweep of the same files.** It comes to its end, and tells of the files of the first
what the first has told. -/
structure Again (options : Options) (launch later : Launch) (schedule schedule' : Schedule)
    (root : Path) (target : Pattern.Node) (selection selection' : Scope.Selection) : Prop where
  selected : (options.scope root).select launch.conditions.site launch.conditions.size =
    .ok selection
  selected' : (options.scope root).select later.conditions.site later.conditions.size =
    .ok selection'
  perm : selection'.targets.Perm selection.targets
  swept : (options.sweep later schedule' root target).outcome = .ok ()
  summary : Settings.Summary ((options.settings root target).jobs launch.conditions selection)
    (options.sweep launch schedule root target).state
  summary' : Settings.Summary ((options.settings root target).jobs launch.conditions selection)
    (options.sweep later schedule' root target).state
  nodup : ((options.sweep launch schedule root target).state.failures.map (·.1)).Nodup
  nodup' : ((options.sweep later schedule' root target).state.failures.map (·.1)).Nodup

namespace Reported

theorem not_long (h : options.Reported launch schedule root target directory bytes) :
    ¬ pathBytesLimit ≤
      (Utf8.bytesOfName (directory.child (Report.nameAt launch.now)).text).length := by
  obtain ⟨emptied, hemptied, -⟩ := h.written
  obtain ⟨-, -, -, location, hleads, -⟩ := Site.write_ok hemptied
  exact hleads.walk.1

/-- From the year 1000 on, the path of a later report is no longer than that of the first. -/
theorem fits_of_year (h : options.Reported launch schedule root target directory bytes)
    (hyear : 1000 ≤ launch.now.year) : options.Fits launch later := by
  intro directory' journal hdirectory
  obtain ⟨journal', hdirectory'⟩ := h.directed
  obtain ⟨rfl, -⟩ := Prod.mk.inj (Except.ok.inj (hdirectory.symm.trans hdirectory'))
  refine Nat.lt_of_le_of_lt (directory'.length_child_le ?_) (Nat.lt_of_not_le h.not_long)
  -- the first year has four digits, and no year has more
  have hfour : ¬ (Nat.toDigits 10 launch.now.year).length ≤ 3 := by
    rw [Nat.length_toDigits_le_iff (by decide) (by decide)]
    omega
  have hlater := later.now.length_year_le
  rw [Report.length_bytes_nameAt, Report.length_bytes_nameAt]
  omega

/-- What a run leaves: its report, at a place in the directory for reports. -/
theorem exists_puts (h : options.Reported launch schedule root target directory bytes)
    (hsteady : options.Steady launch) :
    ∃ place, launch.conditions.site.land directory = .ok (.directory place) ∧
      launch.conditions.site.Puts (options.runBy launch schedule).site
        (place ++ [Report.nameAt launch.now]) bytes := by
  obtain ⟨emptied, hemptied, hfilled⟩ := h.written
  obtain ⟨hcwd, hlevels, location, hleads, hfile, hsame⟩ := Site.write_twice hemptied hfilled
  -- both writes are to one place, and since it is no link the place is in the directory
  obtain ⟨place, hplace, rfl⟩ := hleads.child fun place target => hsteady.linkless _ target
  exact ⟨place, hplace, hcwd, hlevels, hleads.walk.2.free, hfile, hsame⟩

variable (h : options.Reported launch schedule root target directory bytes)
  (hsteady : options.Steady launch)
  (hfollows : later.Follows launch (options.runBy launch schedule).site)

include h hsteady hfollows

theorem root_later : options.root later = .ok root := by
  obtain ⟨place, -, hputs⟩ := h.exists_puts hsteady
  rw [← h.rooted]
  cases hpath : options.path with
  | some path => simp only [Options.root, hpath]
  | none =>
    -- the default root goes by directories alone
    simp only [Options.root, hpath, hfollows.program]
    exact (hputs.reordered hfollows.reordered).defaultRoot_eq
      (FileTree.linkless_iff.2 hsteady.linkless) _

/-- **The second sweep.** The same files are selected, and the same comes of them. -/
theorem exists_again (hthorough : schedule.Thorough) (hthorough' : schedule'.Thorough) :
    ∃ selection selection',
      options.Again launch later schedule schedule' root target selection selection' := by
  obtain ⟨place, -, hputs'⟩ := h.exists_puts hsteady
  have hputs := hputs'.reordered hfollows.reordered
  have hlinkless := FileTree.linkless_iff.2 hsteady.linkless
  have hignores : (options.scope root).Ignores (place ++ [Report.nameAt launch.now]) := by
    intro name hname
    rw [List.getLast?_concat, Option.some.injEq] at hname
    rw [← hname]
    exact hsteady.unwanted launch.now
  obtain ⟨selection, hdir, hselect, hsummary, hnodup⟩ := summary_of_swept hthorough h.swept
  have hsizes := hselect
  rw [hsteady.sizes] at hsizes
  obtain ⟨selection', hselect', hperm⟩ := hignores.exists_select hputs hlinkless hdir hsizes
  rw [← hfollows.sizes] at hselect'
  have houtcome : ∀ found ∈ selection.targets,
      ((options.settings root target).job later.conditions found).outcome =
        ((options.settings root target).job launch.conditions found).outcome := by
    intro found hfound
    simp only [Settings.job, hfollows.library, hfollows.guesser]
    exact hignores.inspect_eq hputs hlinkless hdir hsizes hfound _ _ _
  -- what has not interrupted the first sweep does not interrupt the second
  have hok : (options.sweep later schedule' root target).outcome = .ok () := by
    refine SweepState.outcome_of_uninterrupted rfl ((hputs.isDir_eq root).trans hdir) hselect'
      (hthorough'.uninterrupted _ _) fun job hjob => ?_
    obtain ⟨found, hfound, rfl⟩ := List.mem_map.1 hjob
    rw [houtcome found (hperm.mem_iff.1 hfound)]
    exact hsummary.running _ (List.mem_map_of_mem (hperm.mem_iff.1 hfound))
  obtain ⟨selection'', -, hselect'', hsummary', hnodup'⟩ := summary_of_swept hthorough' hok
  obtain rfl : selection' = selection'' := Except.ok.inj (hselect'.symm.trans hselect'')
  have htold := hsummary'.of_perm (hperm.map ((options.settings root target).job later.conditions))
  exact ⟨selection, selection', {
    selected := hselect
    selected' := hselect'
    perm := hperm
    swept := hok
    summary := hsummary
    summary' := htold.map_congr (fun _ _ => rfl) fun found hfound => (houtcome found hfound).symm
    nodup := hnodup
    nodup' := hnodup' }⟩

/-- The second report goes where the first has gone. -/
theorem directory_later : options.reportPlan.directory later.conditions.site =
    options.reportPlan.directory launch.conditions.site := by
  obtain ⟨place, -, hputs⟩ := h.exists_puts hsteady
  exact (hputs.reordered hfollows.reordered).directory_eq options.reportPlan

/-- The second report can be written, if its path is not too long. -/
theorem exists_write_later (hfits : options.Fits launch later) :
    ∃ emptied, later.conditions.site.write (directory.child (Report.nameAt later.now)) [] =
      .ok emptied := by
  obtain ⟨place, hplace, hputs'⟩ := h.exists_puts hsteady
  have hputs := hputs'.reordered hfollows.reordered
  obtain ⟨journal, hdirectory⟩ := h.directed
  obtain ⟨emptied, hemptied, -⟩ := h.written
  have hnul : directory.hasNul = false := by
    have hchild := (Site.write_ok hemptied).1
    simp only [Path.hasNul, Path.child, Path.below, List.any_append, Bool.or_eq_false_iff] at hchild
    exact hchild.1
  refine Site.exists_write_child (hputs.land_directory hplace) hnul
    (Report.isFileName_nameAt later.now) (Nat.not_le.2 (hfits directory journal hdirectory))
    (FileTree.directory_of_child hputs.file) ?_ []
  -- at the place of the second report is nothing yet, an older file, or the first report
  cases hnode : later.conditions.site.tree.node? (place ++ [Report.nameAt later.now]) with
  | none => exact .inl hnode
  | some node =>
    cases node with
    | file old => exact .inr ⟨old, hnode⟩
    | directory =>
      by_cases hplaces : place ++ [Report.nameAt later.now] = place ++ [Report.nameAt launch.now]
      · rw [hplaces, hputs.file] at hnode
        exact absurd hnode (by simp)
      · have hbefore := (hputs.same _ hplaces).symm.trans hnode
        exact absurd ((FileTree.node?_eq_some (by simp)).1 hbefore)
          (hsteady.unnamed place later.now)
    | link other =>
      exact absurd hnode (hputs.linkless (FileTree.linkless_iff.2 hsteady.linkless) _ _)

/-- A second report whose path is not too long is the first once more. -/
theorem repeats_of_fits (hthorough : schedule.Thorough) (hthorough' : schedule'.Thorough)
    (hfits : options.Fits launch later) : options.Repeats launch later schedule schedule' := by
  obtain ⟨selection, selection', hagain⟩ := h.exists_again hsteady hfollows hthorough hthorough'
  have hkeys := hsteady.distinct root selection h.rooted hagain.selected
  -- files with keys of their own are reported in one order only
  have hrender : Report.render options.reportPlan.arranged
      (options.sweep later schedule' root target).state.register.findings =
        Report.render options.reportPlan.arranged
          (options.sweep launch schedule root target).state.register.findings := by
    have harranged : options.reportPlan.arranged = true := by
      simp [reportPlan, hsteady.sorted]
    rw [harranged]
    exact hagain.summary'.render_eq hagain.summary (Settings.not_clashes_of_nodup hkeys)
  obtain ⟨journal, hdirectory⟩ := h.directed
  obtain ⟨emptied, hemptied, -⟩ := h.written
  obtain ⟨emptied', hemptied'⟩ := h.exists_write_later hsteady hfollows hfits
  have hdirectory' := (h.directory_later hsteady hfollows).trans hdirectory
  have hroot' := h.root_later hsteady hfollows
  obtain ⟨-, hprinted, hread⟩ :=
    runBy_of_swept h.pattern h.rooted h.swept hdirectory hemptied h.encoded
  obtain ⟨hreturns, hprinted', hread'⟩ :=
    runBy_of_swept (hfollows.host ▸ h.pattern) hroot' hagain.swept hdirectory' hemptied'
      (hrender ▸ h.encoded)
  have hnumbers : options.SameNumbers launch later schedule schedule' root target selection
      selection' := {
    pattern := h.pattern
    rooted := h.rooted
    rooted' := hroot'
    selected := hagain.selected
    selected' := hagain.selected'
    files := hagain.perm.length_eq
    findings := hagain.summary'.count_eq hagain.summary
    found := hagain.summary'.fileCount_eq hagain.summary
    failures := by
      rw [Settings.length_failures hagain.nodup hagain.summary hkeys,
        Settings.length_failures hagain.nodup' hagain.summary' hkeys] }
  exact ⟨hreturns, ⟨directory, bytes, hprinted, hprinted', hread, hread'⟩,
    root, target, selection, selection', hnumbers⟩

/-- A second run that ends with code 0 has written its report. -/
theorem fits_of_outcome (hreturns : (options.runBy later schedule').outcome = .ok 0) :
    options.Fits launch later := by
  intro directory' journal hdirectory
  obtain ⟨root', target', directory'', bytes', h'⟩ := exists_reported hreturns
  obtain ⟨journal', hdirectory'⟩ := h'.directed
  -- the directory that the second run has written to is that of the first
  rw [h.directory_later hsteady hfollows, hdirectory] at hdirectory'
  obtain ⟨rfl, -⟩ := Prod.mk.inj (Except.ok.inj hdirectory')
  exact Nat.lt_of_not_le h'.not_long

end Reported

/-- **When a second run repeats the first:** exactly if the path of its report is not too long for
the system. -/
theorem repeats_iff_fits (hsteady : options.Steady launch) (hthorough : schedule.Thorough)
    (hthorough' : schedule'.Thorough) (hreturns : (options.runBy launch schedule).outcome = .ok 0)
    (hfollows : later.Follows launch (options.runBy launch schedule).site) :
    options.Repeats launch later schedule schedule' ↔ options.Fits launch later := by
  obtain ⟨root, target, directory, bytes, h⟩ := exists_reported hreturns
  exact ⟨fun hrepeated => h.fits_of_outcome hsteady hfollows hrepeated.returns,
    h.repeats_of_fits hsteady hfollows hthorough hthorough'⟩

/-- **A second run repeats the first.** A run under steady options has ended with code 0, at a time
whose year has four digits, as a clock shows that counts from 1970, and nothing else touches the
tree. Whatever the order in which the system lists the tree, and whatever the workers do, a second
run with the same options at any time ends with code 0 as well, leaves a report with the same bytes
in the same directory, and comes to the same numbers. -/
theorem repeats (hsteady : options.Steady launch) (hthorough : schedule.Thorough)
    (hthorough' : schedule'.Thorough) (hclock : 1000 ≤ launch.now.year)
    (hreturns : (options.runBy launch schedule).outcome = .ok 0)
    (hfollows : later.Follows launch (options.runBy launch schedule).site) :
    options.Repeats launch later schedule schedule' := by
  obtain ⟨root, target, directory, bytes, h⟩ := exists_reported hreturns
  exact h.repeats_of_fits hsteady hfollows hthorough hthorough' (h.fits_of_year hclock)

end Options

/-! ### A run that is repeated -/

/-- A directory with a source in it, and one for reports. -/
def logTree : FileTree where
  entries := [(["d"], .directory), (["d", "a.cs"], .file "x \"가\"".toUTF8.data.toList),
    (["logs"], .directory)]
  nodup := by decide
  housed := by decide
  named := by decide

/-- The site of this tree. -/
def logSite : Site := ⟨logTree, [], standardLevels⟩

/-- A launch over this tree at some time. -/
def logLaunch (now : Timestamp) : Launch where
  conditions := { twins with site := logSite, size := logSite.size }
  host := .plain
  program := none
  now := now

/-- What the command line `d` says, with reports to go to some directory. -/
def logOptions (out : Path) : Options := { twinOptions with out := some out }

/-- The launch at some time on what a run has left. -/
def Launch.after (launch : Launch) (site : Site) (now : Timestamp) : Launch where
  conditions := { launch.conditions with site := site, size := site.size }
  host := launch.host
  program := launch.program
  now := now

theorem Launch.follows_after (launch : Launch) (site : Site) (now : Timestamp) :
    (launch.after site now).Follows launch site := ⟨.refl site, rfl, rfl, rfl, rfl, rfl⟩

/-- A second of some year. -/
def inYear (year : Nat) (h : 1 ≤ year ∧ year ≤ 9999) : Timestamp :=
  { twinLaunch.now with year := year, year_bounds := h }

theorem select_log (out : Path) (now : Timestamp) :
    ((logOptions out).scope ⟨.here, ["d"]⟩).select (logLaunch now).conditions.site
      (logLaunch now).conditions.size = .ok ⟨[("d/a.cs", ⟨.here, ["d", "a.cs"]⟩)], []⟩ := by
  cbv

theorem steady_log (out : Path) (now : Timestamp) :
    (logOptions out).Steady (logLaunch now) where
  sorted := rfl
  linkless := by
    intro place target hentry
    simp [logLaunch, logSite, logTree] at hentry
  unnamed := by
    intro place time hentry
    have hshort : ∀ entry ∈ logTree.entries,
        ∀ name ∈ entry.1, (Utf8.bytesOfName name).length < 32 := by decide
    have hname := hshort _ hentry (Report.nameAt time) (by simp)
    rw [Report.length_bytes_nameAt] at hname
    omega
  unwanted := by
    intro time
    have hstanding : (logOptions out).Standing := ⟨rfl, rfl, rfl, rfl⟩
    rw [← Bool.not_eq_true]
    intro hwanted
    -- the one suffix is not the other
    have hsource : (".cs" : Text) <:+ Report.nameAt time :=
      (@Options.Standing.wants_iff _ hstanding ⟨.here, []⟩ _).1 hwanted
    have hreport : (".txt" : Text) <:+ Report.nameAt time := List.suffix_append _ _
    have hsuffix : (".cs" : Text) <:+ (".txt" : Text) :=
      List.suffix_of_suffix_length_le hsource hreport (by decide)
    exact absurd hsuffix (by decide)
  distinct := by
    intro root selection hroot hselect
    obtain rfl : ⟨.here, ["d"]⟩ = root := Except.ok.inj hroot
    obtain rfl := Except.ok.inj ((select_log out now).symm.trans hselect)
    decide
  sizes := rfl

set_option maxRecDepth 2000 in
/-- A report with a quoted line, in the directory that is swept, does not show in the next one. -/
theorem repeats_inward :
    let launch := logLaunch (inYear 2024 (by decide))
    let options := logOptions ⟨.here, ["d"]⟩
    let run := options.runBy launch inOrder
    run.outcome = .ok 0 ∧
      run.site.read ⟨.here, ["d", "HangulDetector_2024-01-02_030405.txt"]⟩ =
        .ok "d/a.cs (1): x \"가\"\n".toUTF8.data.toList ∧
      options.Repeats launch (launch.after run.site (inYear 2025 (by decide))) inOrder
        inOrder := by
  intro launch options run
  have hreturns : ((logOptions ⟨.here, ["d"]⟩).runBy (logLaunch (inYear 2024 (by decide)))
      inOrder).outcome = .ok 0 := by cbv
  have hread : ((logOptions ⟨.here, ["d"]⟩).runBy (logLaunch (inYear 2024 (by decide)))
      inOrder).site.read ⟨.here, ["d", "HangulDetector_2024-01-02_030405.txt"]⟩ =
        .ok "d/a.cs (1): x \"가\"\n".toUTF8.data.toList := by cbv
  exact ⟨hreturns, hread, Options.repeats (steady_log _ _) thorough_inOrder thorough_inOrder
    (by decide) hreturns (launch.follows_after run.site (inYear 2025 (by decide)))⟩

end HangulLint
