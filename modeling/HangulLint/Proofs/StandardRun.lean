import HangulLint.Proofs.ExitCode
import HangulLint.Proofs.StandardReport
import Mathlib

/-!
# A run under the standard rule from end to end

What a run with the standard rule writes can be told from the tree and from what its files hold:
the report goes through the wanted files that can be read, in the order of their keys, and says of
every wanted line where it is and how it reads. Nothing of this depends on the number of workers,
on their schedule or on the answers of guessers about files that they are not asked about.

For two kinds of tree it fails. Whether something of a wanted name is a file, and whether a
directory is one, has to be asked of the system, and the system refuses to answer where a path is
too long or leads over a link to a name that is too long. And a directory can lie too deep for the
program. Nothing catches either: one such link ends the run without a report. The run does what it
is meant to do exactly where neither comes up (`Launch.faithful_iff`).

* `Options.Wanted` — the files that are to be looked into, told from the tree;
* `Options.Faithful` — what a run is meant to leave behind;
* `Site.InReach` — no question is refused, and no directory is too deep;
* `Options.mem_targets_iff`, `Options.answered_iff` — a selection takes the wanted files, and is
  made exactly where nothing is out of reach;
* `Options.faithful_of_inReach`, `Options.inReach_of_faithful` — the two halves.
-/

namespace HangulLint

/-! ### What is asked of the system -/

namespace Site

variable {site : Site} {path : Path}

/-- **Nothing is out of reach.** No directory below the root is too deep to be entered. None of
them, and nothing there of a wanted name, has a path that is too long or leads over a name that is.
-/
def InReach (site : Site) (root : Path) (location : Location) : Prop :=
  ∀ names node, names ≠ [] → (location ++ names, node) ∈ site.tree.entries →
    (node = .directory → names.length ≤ site.levels) ∧
    (node = .directory ∨ (".cs" : Text) <:+ (root.below names).name →
      site.land (root.below names) ≠ .error .nameTooLong)

end Site

namespace Options

/-- **The files that are to be looked into.** The names lead to such a file from the root, which is
at `location`. Nothing lies below a link, so whatever is in the tree there is reached through
directories alone. -/
structure Wanted (options : Options) (conditions : Conditions) (root : Path) (location : Location)
    (names : List Text) : Prop where
  /-- It is not the root itself. -/
  proper : names ≠ []
  /-- Something is there. -/
  below : ∃ node, (location ++ names, node) ∈ conditions.site.tree.entries
  /-- Its name is that of a source in C#. -/
  suffix : (".cs" : Text) <:+ (root.below names).name
  /-- It is a file, once links are followed. -/
  file : conditions.site.isFile (root.below names) = .ok true
  /-- No directory between the root and it has an excluded name. -/
  entered : ∀ name ∈ names.dropLast, name ∉ Text.commaList options.excludedDirs
  /-- It is not too large. -/
  small : ∀ limit, options.sizeLimit = some limit →
    ∃ bytes, conditions.size (root.below names) = .ok bytes ∧ bytes ≤ limit

/-- The wanted files that can be read, with what they hold. -/
def Readable (options : Options) (conditions : Conditions) (root : Path) (location : Location)
    (file : Text × List Char) : Prop :=
  ∃ names, options.Wanted conditions root location names ∧ (root.below names).key = file.1 ∧
    readSource conditions.site conditions.library (conditions.guesser (root.below names))
        (root.below names) =
      .ok file.2

/-- **What a run is meant to leave behind.** It ends with code 0, and in the file of the report in
some directory stands, as UTF-8, what is said of the readable files. -/
structure Faithful (options : Options) (launch : Launch) (root : Path) (location : Location)
    (directory : Path) (run : Run) : Prop where
  returns : run.outcome = .ok 0
  written : ∃ files bytes, Report.Sorted files ∧
    (∀ file, file ∈ files ↔ options.Readable launch.conditions root location file) ∧
    Utf8.encodeText (Report.ofFiles files) = .ok bytes ∧
    run.site.read (directory.child (Report.nameAt launch.now)) = .ok bytes

/-- **What a run has to find**, for its report to be what it is meant to be. -/
structure Prepared (options : Options) (launch : Launch) (root : Path) (location : Location)
    (directory : Path) : Prop where
  /-- The rule is the standard one. -/
  standing : options.Standing
  /-- The root is a directory. -/
  rooted : options.root launch = .ok root
  isDir : launch.conditions.site.isDir root = .ok true
  land : launch.conditions.site.land root = .ok (.directory location)
  /-- No two wanted files share a key. -/
  distinct : ∀ names names', options.Wanted launch.conditions root location names →
    options.Wanted launch.conditions root location names' →
    (root.below names).key = (root.below names').key → names = names'
  /-- The keys of wanted files have a UTF-8 form. -/
  clean : ∀ names, options.Wanted launch.conditions root location names →
    ∀ b, Glyph.stray b ∉ (root.below names).key
  /-- The report can be made in the directory that it goes to. -/
  directed : ∃ journal, options.reportPlan.directory launch.conditions.site =
    .ok (directory, journal)
  writable : ∃ emptied, launch.conditions.site.write
    (directory.child (Report.nameAt launch.now)) [] = .ok emptied

/-! ### The selection -/

section Selection

variable {options : Options} {conditions : Conditions} {root : Path} {location : Location}
  {selection : Scope.Selection}

theorem wanted_iff (h : options.Standing) {names : List Text} :
    options.Wanted conditions root location names ↔ names ≠ [] ∧
      (∃ node, (location ++ names, node) ∈ conditions.site.tree.entries) ∧
      (options.scope root).picks conditions.site conditions.size (root.below names) = true := by
  have hexcludes : (options.scope root).excludesDir (root.below names) = false ↔
      ∀ name ∈ names.dropLast, name ∉ Text.commaList options.excludedDirs :=
    @Scope.excludesDir_below (options.scope root) names
  rw [Scope.picks_iff, h.wants_iff, hexcludes]
  constructor
  · rintro ⟨hproper, hbelow, hsuffix, hfile, hentered, hsmall⟩
    refine ⟨hproper, hbelow, hsuffix, hfile, hentered, fun limit hlimit => ?_⟩
    obtain ⟨bytes, hsize, hle⟩ := hsmall limit hlimit
    exact ⟨bytes, hsize, Int.not_lt.2 hle⟩
  · rintro ⟨hproper, hbelow, hsuffix, hfile, hentered, hsmall⟩
    refine ⟨hproper, hbelow, hsuffix, hfile, hentered, fun limit hlimit => ?_⟩
    obtain ⟨bytes, hsize, hle⟩ := hsmall limit hlimit
    exact ⟨bytes, hsize, Int.not_lt.1 hle⟩

theorem mem_targets_iff (h : options.Standing) (hdir : conditions.site.isDir root = .ok true)
    (hland : conditions.site.land root = .ok (.directory location))
    (hselect : (options.scope root).select conditions.site conditions.size = .ok selection)
    {target : Target} :
    target ∈ selection.targets ↔ ∃ names, options.Wanted conditions root location names ∧
      target = Scope.target (root.below names) := by
  rw [Scope.mem_select hdir hland hselect]
  constructor
  · rintro ⟨names, node, hproper, hentry, hpicks, rfl⟩
    exact ⟨names, (wanted_iff h).2 ⟨hproper, ⟨node, hentry⟩, hpicks⟩, rfl⟩
  · rintro ⟨names, hwanted, rfl⟩
    obtain ⟨hproper, ⟨node, hentry⟩, hpicks⟩ := (wanted_iff h).1 hwanted
    exact ⟨names, node, hproper, hentry, hpicks, rfl⟩

/-- Nothing is in the way of a selection exactly if nothing that can come up is out of reach. -/
theorem answered_iff (h : options.Standing) (hdir : conditions.site.isDir root = .ok true)
    (hland : conditions.site.land root = .ok (.directory location)) :
    (options.scope root).Answered conditions.site conditions.size location ↔
      conditions.site.InReach root location := by
  rw [Scope.answered_iff hdir hland]
  refine forall₄_congr fun names node _ _ => ?_
  rw [h.wants_iff]
  rfl

/-! ### The files that are read -/

/-- The files of a selection that can be read, in the order of their keys. -/
def filesOf (conditions : Conditions) (selection : Scope.Selection) : List (Text × List Char) :=
  (selection.targets.filterMap fun target =>
    (readSource conditions.site conditions.library
        (conditions.guesser target.2) target.2).toOption.map
      (target.1, ·)).mergeSort fun a b => Text.le a.1 b.1

theorem mem_filesOf {file : Text × List Char} :
    file ∈ filesOf conditions selection ↔ ∃ path, (file.1, path) ∈ selection.targets ∧
      readSource conditions.site conditions.library (conditions.guesser path) path =
        .ok file.2 := by
  rw [filesOf, List.mem_mergeSort, List.mem_filterMap]
  constructor
  · rintro ⟨⟨key, path⟩, htarget, hread⟩
    obtain ⟨content, hcontent, rfl⟩ := Option.map_eq_some_iff.1 hread
    cases hsource :
        readSource conditions.site conditions.library (conditions.guesser path) path with
    | error fault => simp [hsource, Except.toOption] at hcontent
    | ok content' =>
      simp only [hsource, Except.toOption, Option.some.injEq] at hcontent
      exact ⟨path, htarget, hcontent ▸ hsource⟩
  · rintro ⟨path, htarget, hread⟩
    exact ⟨_, htarget, by simp [hread, Except.toOption]⟩

theorem mem_filesOf_iff (h : options.Standing) (hdir : conditions.site.isDir root = .ok true)
    (hland : conditions.site.land root = .ok (.directory location))
    (hselect : (options.scope root).select conditions.site conditions.size = .ok selection)
    {file : Text × List Char} :
    file ∈ filesOf conditions selection ↔ options.Readable conditions root location file := by
  rw [mem_filesOf]
  constructor
  · rintro ⟨path, htarget, hread⟩
    obtain ⟨names, hwanted, heq⟩ := (mem_targets_iff h hdir hland hselect).1 htarget
    obtain ⟨hkey, rfl⟩ := Prod.mk.inj heq
    exact ⟨names, hwanted, hkey.symm, hread⟩
  · rintro ⟨names, hwanted, hkey, hread⟩
    exact ⟨_, (mem_targets_iff h hdir hland hselect).2 ⟨names, hwanted, by rw [← hkey]; rfl⟩, hread⟩

/-- If no two files of a selection share a key, those that can be read come in order. -/
theorem sorted_filesOf (hnodup : (selection.targets.map (·.1)).Nodup) :
    Report.Sorted (filesOf conditions selection) := by
  have hkeys : ((filesOf conditions selection).map (·.1)).Nodup := by
    refine ((List.mergeSort_perm ..).map _).nodup_iff.2 (List.pairwise_map.2 ?_)
    refine List.Pairwise.filterMap _ ?_ (List.pairwise_map.1 hnodup)
    intro target target' hne file hfile file' hfile'
    obtain ⟨content, -, rfl⟩ := Option.map_eq_some_iff.1 hfile
    obtain ⟨content', -, rfl⟩ := Option.map_eq_some_iff.1 hfile'
    exact hne
  refine List.Pairwise.and ?_ (List.pairwise_map.1 hkeys)
  exact List.pairwise_mergeSort (fun a b c => Text.le_trans a.1 b.1 c.1)
    (fun a b => Text.le_total a.1 b.1) _

/-- If no two files of a selection share a key, a key is that of one file only. -/
theorem filter_key_eq (hnodup : (selection.targets.map (·.1)).Nodup) {key : Text} {path : Path}
    (h : (key, path) ∈ selection.targets) :
    selection.targets.filter (·.1 = key) = [(key, path)] := by
  refine List.perm_singleton.1 ((List.perm_ext_iff_of_nodup (hnodup.of_map.filter _)
    (List.nodup_singleton _)).2 fun target => ?_)
  rw [List.mem_filter, List.mem_singleton, decide_eq_true_eq]
  constructor
  · rintro ⟨htarget, hkey⟩
    exact List.inj_on_of_nodup_map hnodup htarget h hkey
  · rintro rfl
    exact ⟨h, rfl⟩

/-- The report on a sweep in which no two files share a key. -/
theorem render_eq_ofFiles {settings : Settings} {findings : Findings}
    (hrule : settings.rule = Rule.standard) (horderly : findings.Orderly)
    (hshuffle : ∀ key, Shuffle (selection.targets.filterMap (settings.share conditions key))
      (findings.under key))
    (hnodup : (selection.targets.map (·.1)).Nodup) :
    Report.render true findings = Report.ofFiles (filesOf conditions selection) := by
  refine Report.render_eq_ofFiles horderly (sorted_filesOf hnodup) (fun file hfile => ?_)
    fun key hne => ?_
  · -- one file has the key, so that its findings are all that is there
    obtain ⟨path, htarget, hread⟩ := mem_filesOf.1 hfile
    rw [Settings.under_eq_findingsIn hshuffle (filter_key_eq hnodup htarget) hread, hrule]
  · obtain ⟨finding, hfinding⟩ := List.exists_mem_of_ne_nil _ hne
    obtain ⟨path, content, htarget, hread, -⟩ := (Settings.exists_target hshuffle).1 hfinding
    exact ⟨content, mem_filesOf.2 ⟨path, htarget, hread⟩⟩

end Selection

/-! ### The run -/

section Run

variable {options : Options} {launch : Launch} {schedule : Schedule} {root directory : Path}
  {location : Location} {selection : Scope.Selection}

theorem Prepared.nodup_keys (h : options.Prepared launch root location directory)
    (hselect : (options.scope root).select launch.conditions.site launch.conditions.size =
      .ok selection) : (selection.targets.map (·.1)).Nodup := by
  refine List.Nodup.map_on (fun target htarget target' htarget' hkey => ?_)
    (Scope.nodup_select h.isDir h.land hselect)
  obtain ⟨names, hnames, rfl⟩ := (mem_targets_iff h.standing h.isDir h.land hselect).1 htarget
  obtain ⟨names', hnames', rfl⟩ := (mem_targets_iff h.standing h.isDir h.land hselect).1 htarget'
  rw [h.distinct names names' hnames hnames' hkey]

theorem Prepared.stray_notMem (h : options.Prepared launch root location directory)
    (hselect : (options.scope root).select launch.conditions.site launch.conditions.size =
      .ok selection) {key : Text} {path : Path} (htarget : (key, path) ∈ selection.targets)
    (b : UInt8) : Glyph.stray b ∉ key := by
  obtain ⟨names, hnames, heq⟩ := (mem_targets_iff h.standing h.isDir h.land hselect).1 htarget
  rw [(Prod.mk.inj heq).1]
  exact h.clean names hnames b

/-- Where nothing is out of reach, a run does what it is meant to do. -/
theorem faithful_of_inReach (h : options.Prepared launch root location directory)
    (hthorough : schedule.Thorough) (hundisturbed : launch.conditions.Undisturbed)
    (hreach : launch.conditions.site.InReach root location) :
    options.Faithful launch root location directory (options.runBy launch schedule) := by
  obtain ⟨selection, hselect⟩ :=
    Scope.exists_select h.isDir h.land ((answered_iff h.standing h.isDir h.land).2 hreach)
  obtain ⟨hok, horderly, hshuffle⟩ :=
    sweep_ok Rule.standardTarget hthorough hundisturbed h.isDir hselect
  have hnodup := h.nodup_keys hselect
  -- the text has a form in bytes, since no key holds a stray byte
  obtain ⟨bytes, hbytes⟩ := Utf8.encodeText_eq_ok.2
    ((stray_notMem_render horderly hshuffle options.reportPlan.arranged).2
      fun key path _ htarget _ _ => h.stray_notMem hselect htarget)
  obtain ⟨journal, hdirectory⟩ := h.directed
  obtain ⟨emptied, hemptied⟩ := h.writable
  obtain ⟨houtcome, -, hread⟩ :=
    runBy_of_swept (h.standing.parse_pattern _) h.rooted hok hdirectory hemptied hbytes
  have harranged : options.reportPlan.arranged = true := by
    rw [reportPlan, h.standing.sorted, Bool.not_false]
  rw [harranged, render_eq_ofFiles h.standing.rule_eq horderly hshuffle hnodup] at hbytes
  exact ⟨houtcome, filesOf launch.conditions selection, bytes, sorted_filesOf hnodup,
    fun file => mem_filesOf_iff h.standing h.isDir h.land hselect, hbytes, hread⟩

/-- Where something is out of reach, the run ends without a code. -/
theorem inReach_of_faithful (h : options.Prepared launch root location directory)
    (hfaithful : options.Faithful launch root location directory (options.runBy launch schedule)) :
    launch.conditions.site.InReach root location := by
  refine (answered_iff h.standing h.isDir h.land).1 ?_
  cases hselect : (options.scope root).select launch.conditions.site launch.conditions.size with
  | ok selection => exact (Scope.select_ok h.isDir h.land hselect).2
  | error obstacle =>
    -- nothing catches an obstacle on the way from the selection to the end of the run
    have hrun : (options.runBy launch schedule).outcome = .error (.sweep (.hindered obstacle)) :=
      runBy_of_refused (h.standing.parse_pattern _) h.rooted h.isDir hselect
    exact absurd (hrun.symm.trans hfaithful.returns) (by simp)

end Run

end Options

/-- **When a run under the standard rule does what it is meant to do.** Under a command line that
can be read, with whatever schedule that does all there is to do, and whatever guessers answer
short of an interruption, the run ends with code 0 and writes what is said of the readable files,
exactly if the system refuses no question that comes up, and no directory is too deep. -/
theorem Launch.faithful_iff {launch : Launch} {schedule : Schedule} {arguments : List Text}
    {options : Options} {root directory : Path} {location : Location}
    (hparse : Options.parse arguments = .ok options)
    (hprepared : options.Prepared launch root location directory)
    (hthorough : schedule.Thorough) (hundisturbed : launch.conditions.Undisturbed) :
    options.Faithful launch root location directory (launch.runBy schedule arguments) ↔
      launch.conditions.site.InReach root location := by
  have hrun : launch.runBy schedule arguments = options.runBy launch schedule := by
    rw [Launch.runBy]
    simp only [hparse]
  rw [hrun]
  exact ⟨Options.inReach_of_faithful hprepared,
    Options.faithful_of_inReach hprepared hthorough hundisturbed⟩

/-! ### A run that does, and one that does not -/

/-- A directory, and the places of two sources in it. -/
def pairPlaces : List Location := [["d"], ["d", "a.cs"], ["d", "x.cs"]]

/-- A tree with one source in a directory, and something else of a wanted name beside it. -/
def pairTree (node : Node) : FileTree where
  entries := pairPlaces.zip
    [.directory, .file "// \"가\"\n x \"나\"\r\n".toUTF8.data.toList, node]
  nodup := by
    change pairPlaces.Nodup
    decide
  housed := by simp [pairPlaces]
  named := by
    have hnames : ∀ place ∈ pairPlaces, ∀ name ∈ place, isFileName name = true := by decide
    exact fun entry hentry => hnames entry.1 (List.of_mem_zip hentry).1

/-- A run over this tree, from the root directory. -/
def pairLaunch (node : Node) : Launch := { twinLaunch with
  conditions := { twins with site := ⟨pairTree node, [], standardLevels⟩ } }

theorem names_pairTree {node node' : Node} {names : List Text} (hproper : names ≠ [])
    (hentry : ([("d" : Text)] ++ names, node') ∈ (pairTree node).entries) :
    names = [("a.cs" : Text)] ∨ names = [("x.cs" : Text)] := by
  have hplaces : [("d" : Text)] ++ names ∈ pairPlaces := (List.of_mem_zip hentry).1
  simpa [pairPlaces, hproper] using hplaces

theorem prepared_pair (node : Node) :
    twinOptions.Prepared (pairLaunch node) ⟨.here, ["d"]⟩ ["d"] ⟨.root, []⟩ where
  standing := ⟨rfl, rfl, rfl, rfl⟩
  rooted := rfl
  isDir := by cbv
  land := by cbv
  distinct := by
    intro names names' hnames hnames' hkey
    obtain ⟨node, hentry⟩ := hnames.below
    obtain ⟨node', hentry'⟩ := hnames'.below
    -- the keys of the two names differ
    rcases names_pairTree hnames.proper hentry with rfl | rfl <;>
      rcases names_pairTree hnames'.proper hentry' with rfl | rfl
    · rfl
    · exact absurd hkey (by decide)
    · exact absurd hkey (by decide)
    · rfl
  clean := by
    intro names hnames b
    obtain ⟨node, hentry⟩ := hnames.below
    rcases names_pairTree hnames.proper hentry with rfl | rfl
    · exact Report.stray_notMem_ofString "d/a.cs" b
    · exact Report.stray_notMem_ofString "d/x.cs" b
  directed := ⟨[], rfl⟩
  writable := by
    have hland : (pairLaunch node).conditions.site.land
        ((⟨.root, []⟩ : Path).child (Report.nameAt (pairLaunch node).now)) =
          .ok (.vacant ["HangulDetector_2025-01-02_030405.txt"]) := by cbv
    have hnul : ((⟨.root, []⟩ : Path).child (Report.nameAt (pairLaunch node).now)).hasNul =
        false := by cbv
    exact Site.exists_write_of_vacant hnul hland ⟨by decide, by cbv, rfl, by decide⟩

/-- Two sources make a report. -/
theorem faithful_sources :
    twinOptions.Faithful (pairLaunch (.file "y \"다\"".toUTF8.data.toList)) ⟨.here, ["d"]⟩ ["d"]
      ⟨.root, []⟩ ((pairLaunch (.file "y \"다\"".toUTF8.data.toList)).runBy inOrder ["d"]) := by
  have hparse : Options.parse ["d"] = .ok twinOptions := by cbv
  refine (Launch.faithful_iff hparse (prepared_pair _) thorough_inOrder undisturbed_twins).2 ?_
  intro names node hproper hentry
  refine ⟨fun _ => ?_, fun _ => ?_⟩
  · rcases names_pairTree hproper hentry with rfl | rfl <;> decide
  rcases names_pairTree hproper hentry with rfl | rfl
  · have hland : (pairLaunch (.file "y \"다\"".toUTF8.data.toList)).conditions.site.land
        ⟨.here, ["d", "a.cs"]⟩ = .ok (.file ["d", "a.cs"]
          "// \"가\"\n x \"나\"\r\n".toUTF8.data.toList) := by cbv
    exact fun h => absurd (hland.symm.trans h) (by simp)
  · have hland : (pairLaunch (.file "y \"다\"".toUTF8.data.toList)).conditions.site.land
        ⟨.here, ["d", "x.cs"]⟩ = .ok (.file ["d", "x.cs"] "y \"다\"".toUTF8.data.toList) := by cbv
    exact fun h => absurd (hland.symm.trans h) (by simp)

/-- A link to a name that is too long. -/
def farLink : Node := .link (Text.ofChars (List.replicate 256 'a'))

set_option maxRecDepth 2000 in
/-- A link to a name that is too long keeps a report from being made. -/
theorem not_faithful_link :
    Options.parse ["d"] = .ok twinOptions ∧
      twinOptions.Prepared (pairLaunch farLink) ⟨.here, ["d"]⟩ ["d"] ⟨.root, []⟩ ∧
      (pairLaunch farLink).conditions.Undisturbed ∧
      ¬ twinOptions.Faithful (pairLaunch farLink) ⟨.here, ["d"]⟩ ["d"] ⟨.root, []⟩
        ((pairLaunch farLink).runBy inOrder ["d"]) := by
  refine ⟨by cbv, prepared_pair _, undisturbed_twins, fun h => ?_⟩
  have houtcome : ((pairLaunch farLink).runBy inOrder ["d"]).outcome =
      .error (.sweep (.hindered (.os ⟨.nameTooLong, "d/x.cs"⟩))) := by cbv
  exact absurd (houtcome.symm.trans h.returns) (by simp)

end HangulLint
